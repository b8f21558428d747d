-- SUMMARY: A class name can be read back from its staging path and its class file path exactly when it holds no separator of paths.
import Buildwright.Generation.File

/-!
# Reading class names back

A class name goes to a staging path and to a class file path by way of `slashed`, and `ofPath` reads
it back by way of `stem` and `dotted`. The endings and the staging directory that are put around the
slashed name are exactly what `stem` takes off again, once, whatever the name itself looks like. What
comes back is therefore `dotted x`, and this is `x` exactly when `x` holds neither slash nor backslash.
-/
namespace Buildwright.ClassName

/-! ## Dots and slashes -/

/-- A text without slashes and backslashes. -/
def SeparatorFree (x : String) : Prop :=
  '/' ∉ x.toList ∧ '\x5c' ∉ x.toList

theorem slashed_append (x y : String) : slashed (x ++ y) = slashed x ++ slashed y :=
  Text.replaceChars_append _ _ x y

theorem dot_not_mem_slashed (x : String) : '.' ∉ (slashed x).toList := by
  intro h
  simp only [slashed, Text.toList_replaceChars, List.mem_map] at h
  obtain ⟨c, -, hc⟩ := h
  by_cases hdot : c = '.' <;> simp [hdot] at hc

theorem dotted_append (x y : String) : dotted (x ++ y) = dotted x ++ dotted y :=
  Text.replaceChars_append _ _ x y

theorem length_dotted (x : String) : (dotted x).length = x.length := by
  rw [← String.length_toList, dotted, Text.toList_replaceChars, List.length_map, String.length_toList]

theorem dotted_separatorFree (x : String) : SeparatorFree (dotted x) := by
  constructor
  all_goals
    intro h
    simp only [dotted, Text.toList_replaceChars, List.mem_map] at h
    obtain ⟨c, -, hc⟩ := h
    split at hc <;> simp_all

/-- Slashes do not matter to `dotted`: they and the dots they stand for become dots. -/
theorem dotted_slashed (x : String) : dotted (slashed x) = dotted x := by
  apply String.toList_inj.1
  simp only [dotted, slashed, Text.toList_replaceChars, List.map_map]
  apply List.map_congr_left
  intro c _
  by_cases hdot : c = '.' <;> simp [hdot]

/-- Only separators are changed by `dotted`. -/
theorem dotted_eq_self_iff {x : String} : dotted x = x ↔ SeparatorFree x := by
  constructor
  · intro h
    rw [← h]
    exact dotted_separatorFree x
  · rintro ⟨hslash, hback⟩
    apply String.toList_inj.1
    rw [dotted, Text.toList_replaceChars]
    refine (List.map_congr_left ?_).trans (List.map_id _)
    intro c hc
    have h₁ : c ≠ '/' := fun h => hslash (h ▸ hc)
    have h₂ : c ≠ '\x5c' := fun h => hback (h ▸ hc)
    simp [h₁, h₂]

theorem ofPath_separatorFree (path : String) : SeparatorFree (ofPath path) :=
  dotted_separatorFree _

/-! ## Valid names -/

theorem isSegmentChar_of_isSegmentStart {c : Char} (h : isSegmentStart c = true) :
    isSegmentChar c = true := by
  simp only [isSegmentStart, isSegmentChar, Char.isAlphanum, Bool.or_eq_true] at h ⊢
  rcases h with (h | h) | h
  · exact .inl (.inl (.inl h))
  · exact .inl (.inr h)
  · exact .inr h

theorem isSegmentChar_of_mem {segment : String} (h : isSegment segment = true) {c : Char}
    (hc : c ∈ segment.toList) : isSegmentChar c = true := by
  unfold isSegment at h
  split at h
  · cases h
  · next d ds hs =>
    rw [hs] at hc
    obtain ⟨hstart, hrest⟩ := (Bool.and_eq_true _ _).mp h
    rcases List.mem_cons.1 hc with rfl | hc
    · exact isSegmentChar_of_isSegmentStart hstart
    · exact List.all_eq_true.1 hrest c hc

/-- A valid class name consists of dots and of characters of segments. -/
theorem of_mem_of_isValid {name : String} (h : isValid name = true) {c : Char} (hc : c ∈ name.toList) :
    c = '.' ∨ isSegmentChar c = true := by
  obtain ⟨-, hsegments⟩ := (Bool.and_eq_true _ _).mp h
  rw [← Text.joined_pieces '.' name] at hc
  rcases Text.mem_joined hc with hc | ⟨segment, hsegment, hc⟩
  · exact .inl (by simpa using hc)
  · exact .inr (isSegmentChar_of_mem (List.all_eq_true.1 hsegments segment hsegment) hc)

/-- The characters of a valid class name are no separators. -/
theorem separatorFree_of_isValid {name : String} (h : isValid name = true) : SeparatorFree name := by
  constructor
  · intro hc
    exact absurd (of_mem_of_isValid h hc) (by decide)
  · intro hc
    exact absurd (of_mem_of_isValid h hc) (by decide)

/-! ## Taking off what was put around a name -/

theorem stem_source (s : String) : stem (s ++ sourceSuffix) = Text.dropOnce stagingRoot s := by
  rw [stem, Text.before?_append]

/-- The ending of class files is not that of sources, so only the former comes off. -/
theorem stem_classFile (s : String) : stem (s ++ classSuffix) = s := by
  have hsource : Text.before? sourceSuffix (s ++ classSuffix) = none := by
    rw [Text.before?_eq_none]
    intro r h
    have hend := congrArg (fun t => t.toList.reverse) h
    simp [sourceSuffix, classSuffix] at hend
  rw [stem, hsource, Text.before?_append]
  rfl

theorem stem_stagingPath (x : String) : stem (stagingPath x) = slashed x := by
  rw [stagingPath, stem_source, Text.dropOnce_append]

theorem stem_classFilePath (x : String) : stem (classFilePath x) = slashed x :=
  stem_classFile (slashed x)

theorem dropOnce_stagingPath (x : String) : Text.dropOnce "./" (stagingPath x) = stagingPath x := by
  apply Text.dropOnce_eq_self
  intro r h
  have hstart := congrArg String.toList h
  simp [stagingPath, stagingRoot] at hstart

/-- A slashed name begins with `./` for no name: the first dot in it is that of its ending. -/
theorem dropOnce_slashed (x : String) {ending : String} (h : Text.after? "./" ending = none) :
    Text.dropOnce "./" (slashed x ++ ending) = slashed x ++ ending := by
  apply Text.dropOnce_eq_self
  intro r hr
  have hdot := dot_not_mem_slashed x
  cases hx : (slashed x).toList with
  | nil =>
    have hempty : slashed x = "" := String.toList_inj.1 hx
    rw [hempty, String.empty_append] at hr
    rw [Text.after?_eq_some.2 hr] at h
    cases h
  | cons c cs =>
    have hstart := congrArg String.toList hr
    rw [String.toList_append, hx] at hstart
    have hc : c = '.' ∧ cs ++ ending.toList = '/' :: r.toList := by simpa using hstart
    rw [hx, hc.1] at hdot
    exact hdot List.mem_cons_self

theorem dropOnce_classFilePath (x : String) :
    Text.dropOnce "./" (classFilePath x) = classFilePath x :=
  dropOnce_slashed x rfl

/-! ## Reading back -/

@[simp] theorem ofPath_stagingPath (x : String) : ofPath (stagingPath x) = dotted x := by
  rw [ofPath, dropOnce_stagingPath, stem_stagingPath, dotted_slashed]

@[simp] theorem ofPath_classFilePath (x : String) : ofPath (classFilePath x) = dotted x := by
  rw [ofPath, dropOnce_classFilePath, stem_classFilePath, dotted_slashed]

theorem ofPath_current_stagingPath (x : String) : ofPath ("./" ++ stagingPath x) = dotted x := by
  rw [ofPath, Text.dropOnce_append, stem_stagingPath, dotted_slashed]

theorem ofPath_current_classFilePath (x : String) :
    ofPath ("./" ++ classFilePath x) = dotted x := by
  rw [ofPath, Text.dropOnce_append, stem_classFilePath, dotted_slashed]

@[simp] theorem dotted_ofPath (path : String) : dotted (ofPath path) = ofPath path :=
  dotted_eq_self_iff.2 (ofPath_separatorFree path)

/-- The names read off two paths are staged at one place only if they are one name. -/
theorem stagingPath_ofPath_inj {p q : String} :
    stagingPath (ofPath p) = stagingPath (ofPath q) ↔ ofPath p = ofPath q := by
  constructor
  · intro h
    simpa using congrArg ofPath h
  · intro h
    rw [h]

theorem classFilePath_ofPath_inj {p q : String} :
    classFilePath (ofPath p) = classFilePath (ofPath q) ↔ ofPath p = ofPath q := by
  constructor
  · intro h
    simpa using congrArg ofPath h
  · intro h
    rw [h]

/-- A text can be read back from the paths made of it, with or without `./` in front of them, exactly
    when it holds no separator. Among the names read off paths, both kinds of paths are therefore
    distinct for distinct names, and two generated files share a staging path exactly when they share
    a class name. -/
theorem round_trip_iff_separatorFree :
    (∀ x, ofPath (stagingPath x) = x ↔ '/' ∉ x.toList ∧ '\x5c' ∉ x.toList) ∧
    (∀ x, ofPath (classFilePath x) = x ↔ '/' ∉ x.toList ∧ '\x5c' ∉ x.toList) ∧
    (∀ x, ofPath ("./" ++ stagingPath x) = x ↔ '/' ∉ x.toList ∧ '\x5c' ∉ x.toList) ∧
    (∀ x, ofPath ("./" ++ classFilePath x) = x ↔ '/' ∉ x.toList ∧ '\x5c' ∉ x.toList) ∧
    (∀ p q, stagingPath (ofPath p) = stagingPath (ofPath q) ↔ ofPath p = ofPath q) ∧
    (∀ p q, classFilePath (ofPath p) = classFilePath (ofPath q) ↔ ofPath p = ofPath q) ∧
    (∀ f g : GeneratedFile, f.stagingPath = g.stagingPath ↔ f.className = g.className) := by
  refine ⟨?_, ?_, ?_, ?_, ?_, ?_, ?_⟩
  · intro x
    rw [ofPath_stagingPath]
    exact dotted_eq_self_iff
  · intro x
    rw [ofPath_classFilePath]
    exact dotted_eq_self_iff
  · intro x
    rw [ofPath_current_stagingPath]
    exact dotted_eq_self_iff
  · intro x
    rw [ofPath_current_classFilePath]
    exact dotted_eq_self_iff
  · intro p q
    exact stagingPath_ofPath_inj
  · intro p q
    exact classFilePath_ofPath_inj
  · intro f g
    exact stagingPath_ofPath_inj

/-- Names that spell the staging directory or an ending, or have empty segments, come back too. -/
example : ofPath (stagingPath "src.main.java..class") = "src.main.java..class" := by decide +kernel

end Buildwright.ClassName
