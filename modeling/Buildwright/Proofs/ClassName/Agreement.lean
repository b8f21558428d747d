-- SUMMARY: The paths of a class agree: where its source is looked for and staged, where its class file is expected and written, and the root above both.
import Buildwright.Generation.Generator
import Buildwright.Project
import Buildwright.Proofs.ClassName.Staging
import Buildwright.Proofs.Cli.Manifest
import Buildwright.Proofs.Path.Relative

/-!
# The paths of a class

The source and the class file of a class are found in several ways: by putting directories and an ending
around the slashed name, by exchanging the extension of a path, by taking a path apart at a directory, and
by writing what is published. The pieces of the slashed name of a valid class are its segments, none of which
is empty or a dot, so that all these ways come to the same path. The root of a project is found again above
its classes directory, however it is spelled.
-/
namespace Buildwright

/-! ## The root above the classes directory -/

section Root

variable (root : Path)

theorem components_join_classesDirectory :
    (root.join Project.classesDirectory).components =
      root.components ++ [.named "target"] ++ [.named "classes"] := by
  by_cases hroot : root.text = ""
  · obtain rfl : root = ⟨""⟩ := congrArg Path.mk hroot
    decide
  · have hpieces := Path.pieces_join hroot (q := Project.classesDirectory) (by decide)
    have hbody : (Text.pieces '/' Project.classesDirectory.text).filterMap Path.Component.ofPiece? =
        [.named "target"] ++ [.named "classes"] := by decide
    rw [Path.components_of_front hroot hpieces (Text.pieces_ne_nil _ _), hbody, List.append_assoc]

/-- The root of a project is read off its classes directory, up to its spelling. -/
theorem components_rootOf_join :
    (Project.rootOf (root.join Project.classesDirectory)).components = root.components := by
  have hcomponents := components_join_classesDirectory root
  have hends : (root.join Project.classesDirectory).endsWith Project.classesDirectory = true := by
    have hclasses : Project.classesDirectory.components = [.named "target", .named "classes"] := by
      decide
    rw [Path.endsWith, List.isSuffixOf_iff_suffix, hcomponents, hclasses]
    exact ⟨root.components, by simp⟩
  obtain ⟨target, htarget, htargetParts⟩ := Path.exists_parent_of_components hcomponents (by simp)
  obtain ⟨q, hq, hqParts⟩ := Path.exists_parent_of_components htargetParts (by simp)
  rw [Project.rootOf, if_pos hends, htarget, Option.bind_some, hq]
  exact hqParts

end Root

namespace ClassName

variable {name : String}

/-! ## Slashed names -/

theorem slashed_eq_self {s : String} (h : '.' ∉ s.toList) : slashed s = s := by
  apply String.toList_inj.1
  rw [slashed, Text.toList_replaceChars]
  refine (List.map_congr_left fun c hc => ?_).trans (List.map_id _)
  have hne : c ≠ '.' := fun heq => h (heq ▸ hc)
  simp [hne]

/-- The pieces of a slashed name are the segments of the name. -/
theorem pieces_slashed (h : '/' ∉ name.toList) :
    Text.pieces '/' (slashed name) = Text.pieces '.' name := by
  have hsegments : (Text.pieces '.' name).map slashed = Text.pieces '.' name :=
    (List.map_congr_left fun segment hsegment =>
      slashed_eq_self (Text.not_mem_of_mem_pieces hsegment)).trans (List.map_id _)
  have hslashed : slashed name = Text.joined "/" (Text.pieces '.' name) := by
    conv_lhs => rw [slashed, ← Text.joined_pieces '.' name, Text.replaceChars_joined]
    exact congrArg (Text.joined "/") hsegments
  rw [hslashed]
  exact Text.pieces_joined (fun segment hsegment hc => h (Text.of_mem_pieces hsegment hc).2)
    (Text.pieces_ne_nil '.' name)

theorem slashed_dotted {s : String} (hdot : '.' ∉ s.toList) (hback : '\x5c' ∉ s.toList) :
    slashed (dotted s) = s := by
  apply String.toList_inj.1
  simp only [slashed, dotted, Text.toList_replaceChars, List.map_map]
  refine (List.map_congr_left fun c hc => ?_).trans (List.map_id _)
  have hc₁ : c ≠ '.' := fun heq => hdot (heq ▸ hc)
  have hc₂ : c ≠ '\x5c' := fun heq => hback (heq ▸ hc)
  by_cases hslash : c = '/'
  · simp [hslash]
  · simp [hc₁, hc₂, hslash]

/-- A class file with no dot or backslash in front of its ending is stored where its class has its class
    file. -/
theorem classFilePath_ofPath {s : String} (hdot : '.' ∉ s.toList) (hback : '\x5c' ∉ s.toList) :
    classFilePath (ofPath (s ++ classSuffix)) = s ++ classSuffix := by
  have hdrop : Text.dropOnce "./" (s ++ classSuffix) = s ++ classSuffix := by
    have hslashed : Text.dropOnce "./" (slashed s ++ classSuffix) = slashed s ++ classSuffix :=
      dropOnce_slashed s rfl
    rwa [slashed_eq_self hdot] at hslashed
  rw [classFilePath, ofPath, hdrop, stem_classFile, slashed_dotted hdot hback]

theorem idle_of_isSegment {segment : String} (h : isSegment segment = true) :
    Path.idle segment = false := by
  rw [Path.idle_eq_false]
  constructor
  all_goals
    rintro rfl
    exact absurd h (by decide)

theorem ne_empty_of_isSegment {segment : String} (h : isSegment segment = true) : segment ≠ "" :=
  (Path.idle_eq_false.1 (idle_of_isSegment h)).1

/-- The slashed name of a valid class ends in a segment, and an ending goes to this segment. -/
theorem exists_pieces_of_isValid (h : isValid name = true) :
    ∃ before last, (∀ segment ∈ before ++ [last], isSegment segment = true) ∧
      ∀ ending, '/' ∉ ending.toList →
        Text.pieces '/' (slashed name ++ ending) = before ++ [last ++ ending] := by
  have hsegments : ∀ segment ∈ Text.pieces '/' (slashed name), isSegment segment = true := by
    rw [pieces_slashed (separatorFree_of_isValid h).1]
    exact List.all_eq_true.1 ((Bool.and_eq_true _ _).mp h).2
  obtain ⟨before, last, hsplit, happend⟩ := Text.exists_pieces_append '/' (slashed name)
  exact ⟨before, last, hsplit ▸ hsegments, happend⟩

theorem isAbsolute_slashed_append (h : isValid name = true) {ending : String}
    (hending : '/' ∉ ending.toList) : (Path.mk (slashed name ++ ending)).isAbsolute = false := by
  obtain ⟨before, last, hsegments, hpieces⟩ := exists_pieces_of_isValid h
  cases before with
  | nil =>
    have hlast := ne_empty_of_isSegment (hsegments last (by simp))
    exact Path.isAbsolute_eq_false (hpieces ending hending) (by simp [hlast])
  | cons first rest =>
    exact Path.isAbsolute_eq_false (hpieces ending hending)
      (ne_empty_of_isSegment (hsegments first (by simp)))

/-! ## One path for each file -/

/-- A project brings a class itself at the path at which its source would be staged. -/
theorem customClassPath_eq (h : isValid name = true) (ctx : GenerationContext) :
    ctx.customClassPath name = ctx.projectRoot.join ⟨stagingPath name⟩ := by
  obtain ⟨before, last, hsegments, hpieces⟩ := exists_pieces_of_isValid h
  have hlast : last ≠ "" := ne_empty_of_isSegment (hsegments last (by simp))
  have hclass : '/' ∉ classSuffix.toList := by decide
  have hsource : '/' ∉ sourceSuffix.toList := by decide
  generalize hsources : ctx.projectRoot.join ⟨"src/main/java"⟩ = sources
  have hrelative : (Path.mk "src/main/java").isAbsolute = false := by decide
  have hne : sources.text ≠ "" := by
    rw [← hsources, Path.join, if_neg (by simp [hrelative])]
    split <;> simp
  have hclassPieces : Text.pieces '/' (sources.join ⟨classFilePath name⟩).text =
      (sources.front ++ before) ++ [last ++ "." ++ "class"] := by
    rw [classFilePath, Path.pieces_join hne (isAbsolute_slashed_append h hclass), hpieces _ hclass,
      List.append_assoc, String.append_assoc]
    rfl
  have hsourcePieces : Text.pieces '/' (sources.join ⟨slashed name ++ sourceSuffix⟩).text =
      (sources.front ++ before) ++ [last ++ "." ++ "java"] := by
    rw [Path.pieces_join hne (isAbsolute_slashed_append h hsource), hpieces _ hsource,
      List.append_assoc, String.append_assoc]
    rfl
  have hfront : sources.front ++ before ≠ [] := by
    simp [Path.front_ne_nil]
  have hstaged : sources.join ⟨slashed name ++ sourceSuffix⟩ =
      ctx.projectRoot.join ⟨stagingPath name⟩ := by
    rw [← hsources, Path.join_join hrelative (by decide) (by decide)
      (isAbsolute_slashed_append h hsource)]
    simp only [stagingPath, stagingRoot, ← String.append_assoc]
    rfl
  rw [GenerationContext.customClassPath, hsources, Path.withExtension_of_pieces hclassPieces hfront hlast
    (by decide) (by decide) (by decide) (by decide), ← hsourcePieces, ← hstaged]
  exact Path.mk_joined rfl

/-- The pieces of the path of a source of a valid class all count. -/
theorem tidy_slashed_source (h : isValid name = true) :
    Path.Tidy (Text.pieces '/' (slashed name ++ sourceSuffix)) := by
  obtain ⟨before, last, hsegments, hpieces⟩ := exists_pieces_of_isValid h
  rw [hpieces _ (by decide)]
  intro piece hpiece
  rcases List.mem_append.1 hpiece with hpiece | hpiece
  · exact idle_of_isSegment (hsegments piece (List.mem_append_left _ hpiece))
  · rw [List.mem_singleton.1 hpiece]
    have hletter : 'j' ∈ (last ++ sourceSuffix).toList := by simp [sourceSuffix]
    rw [Path.idle_eq_false]
    constructor
    all_goals
      intro heq
      rw [heq] at hletter
      exact absurd hletter (by decide)

/-- The pieces of the path at which the source of a valid class is staged all count. -/
theorem tidy_stagingPath (h : isValid name = true) :
    Path.Tidy (Text.pieces '/' (stagingPath name)) := by
  rw [pieces_stagingPath]
  intro piece hpiece
  rcases List.mem_append.1 hpiece with hpiece | hpiece
  · simp only [List.mem_cons, List.not_mem_nil, or_false] at hpiece
    rcases hpiece with rfl | rfl | rfl <;> decide
  · exact tidy_slashed_source h piece hpiece

/-- The path at which the source of a valid class is staged consists of slashes, dots, and characters of
    segments. -/
theorem of_mem_stagingPath (h : isValid name = true) {c : Char} (hc : c ∈ (stagingPath name).toList) :
    c = '/' ∨ c = '.' ∨ isSegmentChar c = true := by
  have hfixed : (stagingRoot.toList ++ sourceSuffix.toList).all
      (fun c => c == '/' || c == '.' || isSegmentChar c) = true := by decide
  have hshown : ∀ c ∈ stagingRoot.toList ++ sourceSuffix.toList,
      c = '/' ∨ c = '.' ∨ isSegmentChar c = true := by
    intro c hc
    simpa [or_assoc] using List.all_eq_true.1 hfixed c hc
  simp only [stagingPath, String.toList_append, List.mem_append] at hc
  rcases hc with (hc | hc) | hc
  · exact hshown c (List.mem_append_left _ hc)
  · rw [slashed, Text.toList_replaceChars] at hc
    obtain ⟨d, hd, rfl⟩ := List.mem_map.1 hc
    by_cases hdot : d = '.'
    · exact .inl (by simp [hdot])
    · have hchar := (of_mem_of_isValid h hd).resolve_left hdot
      exact .inr (.inr (by simpa [hdot] using hchar))
  · exact hshown c (List.mem_append_right _ hc)

/-- The class file of a source below the sources lies below the classes as a class file of its class does. -/
theorem outputFile?_join (h : isValid name = true) (sources classes : Path) :
    outputFile? (sources.join ⟨slashed name ++ sourceSuffix⟩) sources classes sourceSuffix =
      some (classes.join ⟨classFilePath name⟩) := by
  have hne : slashed name ≠ "" := by
    have hname : name ≠ "" := by simpa using ((Bool.and_eq_true _ _).mp h).1
    intro hempty
    have hchars := congrArg String.toList hempty
    exact hname (by simpa [slashed] using hchars)
  rw [outputFile?, Path.relativeTo?_join sources (tidy_slashed_source h)]
  simp [hne, classFilePath]

/-- All ways to the files of a valid class lead to the same paths. A project brings the class itself exactly
    if a file lies where its source would be staged. The class file that is expected of its source below any
    sources is the one that publishing the class writes. And the root of a project is read off its classes
    directory. -/
theorem paths_agree (h : isValid name = true) :
    (∀ (ctx : GenerationContext) (d : Disk), ctx.customClass? d name = some name ↔
      d.isFile (ctx.projectRoot.join ⟨stagingPath name⟩) = true) ∧
    (∀ sources classes : Path,
      outputFile? (sources.join ⟨slashed name ++ sourceSuffix⟩) sources classes sourceSuffix =
        some (classes.join ⟨classFilePath name⟩) ∧
      ∀ (r : Publication) (content : Bytes) (m : Cli.Manifest × Disk),
        r.classFile? = some (name, content) →
          Cli.Manifest.Attempted (classes.join ⟨classFilePath name⟩) content m
            (Cli.Manifest.publish classes m r)) ∧
    ∀ root : Path,
      (Project.rootOf (root.join Project.classesDirectory)).components = root.components := by
  refine ⟨?_, ?_, ?_⟩
  · intro ctx d
    rw [GenerationContext.customClass?, customClassPath_eq h]
    split <;> simp_all
  · intro sources classes
    exact ⟨outputFile?_join h sources classes, fun r content m hr => Cli.Manifest.attempted_publish hr⟩
  · exact components_rootOf_join

/-- A disk with the source of a class whose segments are the names of directories and endings. -/
def keywordSources : Disk where
  entries := [(["p"], .directory 1), (["p", "src"], .directory 1), (["p", "src", "main"], .directory 1),
    (["p", "src", "main", "java"], .directory 1), (["p", "src", "main", "java", "src"], .directory 1),
    (["p", "src", "main", "java", "src", "java"], .directory 1),
    (["p", "src", "main", "java", "src", "java", "class"], .directory 1),
    (["p", "src", "main", "java", "src", "java", "class", "$A.java"], .file ⟨⟨#[]⟩, 1, false⟩)]
  workingDirectory := []
  now := 2

theorem paths_agree_keywords :
    isValid "src.java.class.$A" = true ∧
    (GenerationContext.ofRoot "/p/").customClass? keywordSources "src.java.class.$A" =
      some "src.java.class.$A" ∧
    outputFile? "/p/./src/src/java/class/$A.java" "/p/./src" "out" sourceSuffix =
      some (Path.mk "out/src/java/class/$A.class") ∧
    Cli.Manifest.Attempted "out/src/java/class/$A.class" ⟨#[1]⟩ ({}, keywordSources)
      (Cli.Manifest.publish "out" ({}, keywordSources) (.generatedBean "src.java.class.$A" ⟨#[1]⟩)) ∧
    (Project.rootOf ".//target/classes").components = (Path.mk ".//").components := by
  have hvalid : isValid "src.java.class.$A" = true := by decide +kernel
  have hoccurs : keywordSources.isFile ((Path.mk "/p/").join ⟨stagingPath "src.java.class.$A"⟩) =
      true := by decide +kernel
  have hsource : (Path.mk "/p/./src").join ⟨slashed "src.java.class.$A" ++ sourceSuffix⟩ =
      "/p/./src/src/java/class/$A.java" := by decide +kernel
  have hclass : (Path.mk "out").join ⟨classFilePath "src.java.class.$A"⟩ =
      "out/src/java/class/$A.class" := by decide +kernel
  have hroot : (Path.mk ".//").join Project.classesDirectory = ".//target/classes" := by decide +kernel
  obtain ⟨hcustom, houtput, hrootOf⟩ := paths_agree hvalid
  refine ⟨hvalid, (hcustom _ keywordSources).2 hoccurs, ?_, ?_, ?_⟩
  · rw [← hsource, ← hclass]
    exact (houtput "/p/./src" "out").1
  · rw [← hclass]
    exact (houtput "/p/./src" "out").2 _ _ _ rfl
  · rw [← hroot]
    exact hrootOf ".//"

end ClassName
end Buildwright
