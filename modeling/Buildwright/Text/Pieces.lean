-- SUMMARY: Cutting texts into pieces: leading and trailing parts, first and last occurrences, and lines.

/-!
# Pieces of texts

The operations work on the characters of a text, and those on `String` wrap them. Each comes with
the law that says which text its answer is a part of.
-/
namespace Buildwright.Text

/-! ## Leading and trailing parts -/

/-- What follows `start` in `s`, when `s` begins with it. -/
def after? (start s : String) : Option String :=
  (start.toList.isPrefixOf? s.toList).map String.ofList

/-- What stands before `ending` in `s`, when `s` ends with it. -/
def before? (ending s : String) : Option String :=
  (ending.toList.isSuffixOf? s.toList).map String.ofList

/-- Whether `s` begins with `start`. -/
def beginsWith (start s : String) : Bool :=
  start.toList.isPrefixOf s.toList

/-- Whether `s` ends with `ending`. -/
def endsWith (ending s : String) : Bool :=
  ending.toList.isSuffixOf s.toList

/-- `s` without one copy of `start` at its beginning, if there is one. -/
def dropOnce (start s : String) : String :=
  (after? start s).getD s

/-- `s` without any leading copies of the character `c`. -/
def dropLeading (c : Char) (s : String) : String :=
  String.ofList (s.toList.dropWhile (· == c))

theorem isPrefixOf?_eq_some {start s r : List Char} :
    start.isPrefixOf? s = some r ↔ s = start ++ r := by
  induction start generalizing s with
  | nil =>
    change some s = some r ↔ _
    simp
  | cons c cs ih =>
    cases s with
    | nil =>
      change none = some r ↔ _
      simp
    | cons d ds =>
      change (if c == d then cs.isPrefixOf? ds else none) = some r ↔ _
      by_cases h : c = d
      · subst h; simp [ih]
      · simp [h, Ne.symm h]

/-- The text is the leading part and what follows it. -/
theorem after?_eq_some {start s r : String} : after? start s = some r ↔ s = start ++ r := by
  simp only [after?, Option.map_eq_some_iff, isPrefixOf?_eq_some]
  constructor
  · rintro ⟨a, ha, rfl⟩
    exact String.toList_inj.1 (by simpa using ha)
  · rintro rfl
    exact ⟨r.toList, by simp, by simp⟩

/-- The text is what stands before the trailing part, and that part. -/
theorem before?_eq_some {ending s r : String} : before? ending s = some r ↔ s = r ++ ending := by
  change ((ending.toList.reverse.isPrefixOf? s.toList.reverse).map List.reverse).map String.ofList =
    some r ↔ _
  simp only [Option.map_eq_some_iff, isPrefixOf?_eq_some]
  constructor
  · rintro ⟨_, ⟨a, ha, rfl⟩, rfl⟩
    refine String.toList_inj.1 ?_
    have := congrArg List.reverse ha
    simpa using this
  · rintro rfl
    exact ⟨r.toList, ⟨r.toList.reverse, by simp, by simp⟩, by simp⟩

@[simp] theorem after?_append (start r : String) : after? start (start ++ r) = some r :=
  after?_eq_some.2 rfl

@[simp] theorem before?_append (ending r : String) : before? ending (r ++ ending) = some r :=
  before?_eq_some.2 rfl

theorem before?_eq_none {ending s : String} : before? ending s = none ↔ ∀ r, s ≠ r ++ ending := by
  simp only [Option.eq_none_iff_forall_ne_some, ne_eq, before?_eq_some]

/-- A text ends with `ending` when something stands before it. -/
theorem endsWith_eq_true {ending s : String} : endsWith ending s = true ↔ ∃ r, s = r ++ ending := by
  simp only [endsWith, List.isSuffixOf_iff_suffix]
  constructor
  · rintro ⟨a, ha⟩
    exact ⟨String.ofList a, String.toList_inj.1 (by simp [ha])⟩
  · rintro ⟨r, rfl⟩
    exact ⟨r.toList, by simp⟩

/-- A text begins with `start` when something stands behind it. -/
theorem beginsWith_eq_true {start s : String} : beginsWith start s = true ↔ ∃ r, s = start ++ r := by
  simp only [beginsWith, List.isPrefixOf_iff_prefix]
  constructor
  · rintro ⟨a, ha⟩
    exact ⟨String.ofList a, String.toList_inj.1 (by simp [ha])⟩
  · rintro ⟨r, rfl⟩
    exact ⟨r.toList, by simp⟩

@[simp] theorem dropOnce_append (start r : String) : dropOnce start (start ++ r) = r := by
  rw [dropOnce, after?_append]
  rfl

theorem dropOnce_eq_self {start s : String} (h : ∀ r, s ≠ start ++ r) : dropOnce start s = s := by
  have hnone : after? start s = none :=
    Option.eq_none_iff_forall_ne_some.2 fun r hr => h r (after?_eq_some.1 hr)
  rw [dropOnce, hnone]
  rfl

/-! ## Occurrences -/

/-- The parts of a text on either side of the first occurrence of `marker`. -/
def cut? (marker : List Char) : List Char → Option (List Char × List Char)
  | [] => if marker = [] then some ([], []) else none
  | c :: cs =>
    match marker.isPrefixOf? (c :: cs) with
    | some rest => some ([], rest)
    | none => (cut? marker cs).map fun (left, right) => (c :: left, right)

/-- The parts of a text on either side of the last occurrence of the character `sep`. -/
def cutLast? (sep : Char) : List Char → Option (List Char × List Char)
  | [] => none
  | c :: cs =>
    match cutLast? sep cs with
    | some (left, right) => some (c :: left, right)
    | none => if c = sep then some ([], cs) else none

/-- A cut loses nothing but the marker. -/
theorem eq_of_cut?_eq_some {marker s left right : List Char} (h : cut? marker s = some (left, right)) :
    s = left ++ marker ++ right := by
  induction s generalizing left with
  | nil =>
    simp only [cut?] at h
    split at h <;> simp_all
  | cons c cs ih =>
    simp only [cut?] at h
    split at h
    · next rest hr =>
      cases h
      simpa using isPrefixOf?_eq_some.1 hr
    · simp only [Option.map_eq_some_iff, Prod.exists, Prod.mk.injEq] at h
      obtain ⟨l, r, hc, rfl, rfl⟩ := h
      simp [ih hc]

/-- Only a text without the separator cannot be cut at it. -/
theorem not_mem_of_cutLast?_eq_none {sep : Char} {s : List Char} (h : cutLast? sep s = none) :
    sep ∉ s := by
  induction s with
  | nil => simp
  | cons c cs ih =>
    simp only [cutLast?] at h
    split at h
    · cases h
    · next hc =>
      split at h
      · cases h
      · next hne => simp [ih hc, Ne.symm hne]

/-- A cut at a last occurrence loses nothing but the separator, which the right part is free of. -/
theorem eq_of_cutLast?_eq_some {sep : Char} {s left right : List Char}
    (h : cutLast? sep s = some (left, right)) : s = left ++ sep :: right ∧ sep ∉ right := by
  induction s generalizing left with
  | nil => simp [cutLast?] at h
  | cons c cs ih =>
    simp only [cutLast?] at h
    split at h
    · next l r hc =>
      cases h
      obtain ⟨rfl, hn⟩ := ih hc
      exact ⟨by simp, hn⟩
    · next hc =>
      split at h
      · next heq =>
        cases h
        exact ⟨by simp [heq], not_mem_of_cutLast?_eq_none hc⟩
      · cases h

/-! ## Separators and lines -/

/-- The pieces of `s` between occurrences of the character `sep`; there is always at least one. -/
def pieces (sep : Char) (s : String) : List String :=
  (s.toList.splitOn sep).map String.ofList

/-- The texts `parts` with `sep` between neighbours. -/
def joined (sep : String) (parts : List String) : String :=
  String.ofList (sep.toList.intercalate (parts.map String.toList))

/-- A text is its pieces with the separator between them. -/
theorem joined_pieces (sep : Char) (s : String) :
    joined (String.ofList [sep]) (pieces sep s) = s := by
  simp [joined, pieces, Function.comp_def, List.intercalate_splitOn]

/-- Every character of a joined text comes from the separator or from a part. -/
theorem mem_joined {sep : String} {parts : List String} {c : Char}
    (h : c ∈ (joined sep parts).toList) :
    c ∈ sep.toList ∨ ∃ part ∈ parts, c ∈ part.toList := by
  rw [joined, String.toList_ofList] at h
  induction parts with
  | nil => cases h
  | cons p rest ih =>
    cases rest with
    | nil => exact .inr ⟨p, List.mem_cons_self, by simpa using h⟩
    | cons q rest =>
      rw [List.map_cons, List.map_cons, List.intercalate_cons_cons, List.mem_append,
        List.mem_append] at h
      rcases h with (h | h) | h
      · exact .inr ⟨p, List.mem_cons_self, h⟩
      · exact .inl h
      · rcases ih h with h | ⟨part, hpart, h⟩
        · exact .inl h
        · exact .inr ⟨part, List.mem_cons_of_mem p hpart, h⟩

/-- The lines of a text of which the reversed characters `open` have been read. -/
def linesFrom (read : List Char) : List Char → List (List Char)
  | [] => if read = [] then [] else [read.reverse]
  | c :: cs =>
    if c = '\n' then
      (match read with
        | '\r' :: line => line.reverse
        | line => line.reverse) :: linesFrom [] cs
    else linesFrom (c :: read) cs

/-- The lines of a text. A line ends with a line feed, which may follow a carriage return; a last
    line needs no end, and keeps a carriage return. -/
def lines (s : List Char) : List (List Char) :=
  linesFrom [] s

/-- The characters of a text with `new` in place of every character that satisfies `p`. -/
def replaceChars (p : Char → Bool) (new : Char) (s : String) : String :=
  String.ofList (s.toList.map fun c => if p c then new else c)

@[simp] theorem toList_replaceChars (p : Char → Bool) (new : Char) (s : String) :
    (replaceChars p new s).toList = s.toList.map fun c => if p c then new else c := by
  simp [replaceChars]

theorem replaceChars_append (p : Char → Bool) (new : Char) (s t : String) :
    replaceChars p new (s ++ t) = replaceChars p new s ++ replaceChars p new t := by
  apply String.toList_inj.1
  simp

end Buildwright.Text
