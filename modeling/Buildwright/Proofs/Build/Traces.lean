-- SUMMARY: What a run leaves on the disk, whichever way it ends: copies for debugging and nothing else; and the class files that it publishes.
import Buildwright.Proofs.Build.AllOrNothing
import Buildwright.Proofs.Cli.Manifest
import Buildwright.Proofs.Compile.Confinement
import Buildwright.Proofs.Generation.Copies

/-!
# The traces of a run

Generation only looks at the disk, the copies for debugging go below their directory, and a compilation cleans
up. So whichever way a run ends, the disk has grown, and no file has changed that is out of reach of the
copies. A run that ends well publishes the class files in the output of the compiler, which are stored under
the very paths that they have there.
-/
namespace Buildwright

open Disk

/-! ## The class files in an output -/

/-- The stems of the class files in a store have no dots and no backslashes. -/
def Store.PlainStems (store : Store) : Prop :=
  ∀ stem, stem ++ ClassName.classSuffix ∈ store.names → '.' ∉ stem.toList ∧ '\x5c' ∉ stem.toList

/-- The class files in a store. -/
def Store.classFiles (store : Store) : List (String × Bytes) :=
  store.entries.filter fun e => Text.endsWith ClassName.classSuffix e.1

theorem Store.mem_classFiles {store : Store} {e : String × Bytes} :
    e ∈ store.classFiles ↔ e ∈ store.entries ∧ ∃ stem, e.1 = stem ++ ClassName.classSuffix := by
  rw [classFiles, List.mem_filter, Text.endsWith_eq_true]

/-- A relative name with an ending and without other dots is a plain path. -/
theorem Store.Relative.plainPath {store : Store} (h : store.Relative) {stem : String}
    (hname : stem ++ ClassName.classSuffix ∈ store.names) (hdot : '.' ∉ stem.toList) :
    PlainPath (stem ++ ClassName.classSuffix) := by
  obtain ⟨texts, hjoined, htexts⟩ := h _ hname
  have hslash : '/' ∉ ClassName.classSuffix.toList := by decide
  obtain ⟨before, last, hstem, hpieces⟩ := Text.pieces_append_of_not_mem stem hslash
  have hne : texts ≠ [] := by
    rintro rfl
    have hempty : stem ++ ClassName.classSuffix = "" := hjoined
    simp [ClassName.classSuffix] at hempty
  have hsplit : texts = before ++ [last ++ ClassName.classSuffix] := by
    rw [← hpieces, hjoined]
    exact (Text.pieces_joined (fun text htext => (htexts text htext).2) hne).symm
  refine ⟨texts, hne, fun text htext => ?_, hjoined⟩
  obtain ⟨hnonempty, hslash⟩ := htexts text htext
  have hdots : text ≠ "." ∧ text ≠ ".." := by
    rw [hsplit] at htext
    rcases List.mem_append.1 htext with hbefore | hlast
    · have hfree : '.' ∉ text.toList := fun hmem =>
        hdot (Text.of_mem_pieces (hstem ▸ List.mem_append_left _ hbefore) hmem).2
      constructor
      all_goals
        rintro rfl
        exact hfree (by decide)
    · rw [List.mem_singleton.1 hlast]
      have hlong : 2 < (last ++ ClassName.classSuffix).length := by
        have hsuffix : ClassName.classSuffix.length = 6 := by decide
        rw [String.length_append]
        omega
      constructor
      all_goals
        intro heq
        rw [heq] at hlong
        exact absurd hlong (by decide)
  exact ⟨hnonempty, hdots.1, hdots.2, hslash⟩

namespace Registration

variable {target : Store}

theorem compiledClass?_eq {e : String × Bytes} {stem : String} (h : e.1 = stem ++ ClassName.classSuffix) :
    compiledClass? e = some (ClassName.ofPath e.1, e.2) := by
  rw [compiledClass?, if_pos (Text.endsWith_eq_true.2 ⟨stem, h⟩)]

/-- The compiled classes have their class files under the paths that these have in the output. -/
theorem classFiles_compiledClasses (h : target.PlainStems) :
    (compiledClasses target).map (fun c => (ClassName.classFilePath c.1, c.2)) = target.classFiles := by
  have hentries : ∀ es : List (String × Bytes), (∀ e ∈ es, e.1 ∈ target.names) →
      (es.filterMap compiledClass?).map (fun c => (ClassName.classFilePath c.1, c.2)) =
        es.filter fun e => Text.endsWith ClassName.classSuffix e.1 := by
    intro es hes
    induction es with
    | nil => rfl
    | cons e rest ih =>
      obtain ⟨he, hrest⟩ := List.forall_mem_cons.1 hes
      by_cases hends : Text.endsWith ClassName.classSuffix e.1 = true
      · obtain ⟨stem, hstem⟩ := Text.endsWith_eq_true.1 hends
        obtain ⟨hdot, hback⟩ := h stem (hstem ▸ he)
        have hstored : ClassName.classFilePath (ClassName.ofPath e.1) = e.1 := by
          rw [hstem]
          exact ClassName.classFilePath_ofPath hdot hback
        rw [List.filterMap_cons_some (compiledClass?_eq hstem), List.map_cons, hstored, ih hrest,
          List.filter_cons_of_pos (by simpa using hends)]
      · have hnone : compiledClass? e = none := by rw [compiledClass?, if_neg hends]
        rw [List.filterMap_cons_none hnone, ih hrest, List.filter_cons_of_neg (by simpa using hends)]
  exact hentries target.entries fun e he => List.mem_map_of_mem he

end Registration

namespace BuildPipeline

open Cli

variable {p : BuildPipeline} {classes : Path} {b : Batch} {d d₁ d₂ : Disk} {s : Session}

theorem classFile?_classPublication (bootstrap : Option String) (c : String × Bytes) :
    (Registration.classPublication bootstrap c).classFile? = some c := by
  unfold Registration.classPublication
  split <;> rfl

/-- Of the publications of a build, those of the compiled classes have class files. -/
theorem filterMap_classFile?_publications (p : BuildPipeline) (b : Batch) (target : Store)
    (watched : List Path) :
    (p.publications b target watched).filterMap Publication.classFile? =
      Registration.compiledClasses target := by
  have hclass : ∀ r : Publication, r.isClass = false → r.classFile? = none := by
    intro r hr
    cases r with
    | generatedClass name content application => cases hr
    | generatedBean name content => cases hr
    | _ => rfl
  have hfilter : ∀ ps : List Publication, ps.filterMap Publication.classFile? =
      (ps.filter (·.isClass)).filterMap Publication.classFile? := by
    intro ps
    rw [List.filterMap_filter]
    refine List.filterMap_congr fun r _ => ?_
    cases hr : r.isClass with
    | true => rfl
    | false => exact hclass r hr
  rw [hfilter, filter_isClass_publications, List.filterMap_map]
  refine (List.filterMap_congr fun c _ => ?_).trans List.filterMap_some
  exact classFile?_classPublication b.bootstrapClass c

/-! ## What is left on the disk -/

/-- A run has left copies for debugging behind, and otherwise no trace: the disk has grown, and no file has
    changed that is out of reach from the directory for copies. -/
structure LeavesCopies (p : BuildPipeline) (d d' : Disk) : Prop where
  grows : d.Grows d'
  filesAgree : ∀ place, (∀ directory, p.debugDump.directory = some directory →
    DebugDump.OutOfReach d' directory place) → d.FilesAgree d' place

theorem leavesCopies_refl (hd : d.Rooted) : p.LeavesCopies d d :=
  ⟨hd.grows, fun place _ => SameFiles.refl d place⟩

theorem LeavesCopies.restored (h : p.LeavesCopies d d₁) (h' : d₁.Restored d₂) : p.LeavesCopies d d₂ := by
  have hgrows := h'.grows h.grows.rooted
  refine ⟨h.grows.trans hgrows, fun place hreach => ?_⟩
  have hbefore := h.filesAgree place fun directory hdirectory =>
    (hreach directory hdirectory).of_extends hgrows.extends_before
  exact hbefore.trans (h'.sameFiles place)

/-- A pipeline that passes assets on as they are, and compiles with a command that writes below its output
    directory only. -/
structure Tidy (p : BuildPipeline) : Prop where
  passesOn : p.pool.PassesOn
  writesOutput : ∃ c : JavaCompiler, c.runner.WritesOutput ∧ p.compiler = c.toCompiler

variable (hp : p.Tidy)

include hp in
theorem Tidy.leavesCopies_dumped (hformed : s.disk.WellFormed) (hrooted : s.disk.Rooted)
    (hb : p.pool.generate (p.projectContext classes) s.disk = .ok b) :
    p.LeavesCopies s.disk (p.dumped b s).disk :=
  ⟨p.debugDump.writeAll_grows b.files hrooted,
    fun _ hreach => DebugDump.filesAgree_writeAll hrooted (hp.passesOn.plainPath hformed hb) hreach⟩

theorem stagedNames_stage (b : Batch) : JavaCompiler.StagedNames b.stage.store := by
  intro name hname
  obtain ⟨f, -, rfl⟩ := Batch.mem_stage_store_names.1 hname
  exact ⟨f.className, rfl⟩

include hp in
/-- The compiler restores the disk on which it is called. -/
theorem Tidy.restored_answer (classes : Path) (b : Batch) (hd : s.disk.Rooted) :
    (∀ o w, p.answer classes b s = .ok o w →
      s.disk.Restored w.disk ∧ JavaCompiler.RelativeTarget o) ∧
    ∀ e w, p.answer classes b s = .error e w → s.disk.Restored w.disk := by
  obtain ⟨c, hrunner, hcompiler⟩ := hp.writesOutput
  have hcompile : wp (c.toCompiler.compile b.stage.names b.stage.store (p.compileContext classes))
      (fun o w => s.disk.Restored w.disk ∧ JavaCompiler.RelativeTarget o)
      (fun _ w => s.disk.Restored w.disk) ⟨s.disk, []⟩ :=
    JavaCompiler.wp_compile_restored (w := ⟨s.disk, []⟩) hrunner (stagedNames_stage b) hd
  have hanswer : p.answer classes b s =
      c.toCompiler.compile b.stage.names b.stage.store (p.compileContext classes) ⟨s.disk, []⟩ := by
    rw [answer, hcompiler]
  rw [hanswer]
  exact ⟨fun _ _ ho => hcompile.of_ok ho, fun _ _ he => hcompile.of_error he⟩

include hp in
/-- A compilation behind the copies leaves no further trace, and its output has relative names. -/
theorem Tidy.wp_compileBatch (hformed : s.disk.WellFormed) (hrooted : s.disk.Rooted)
    (hb : p.pool.generate (p.projectContext classes) s.disk = .ok b) :
    wp (p.compileBatch classes b)
      (fun out s' => p.LeavesCopies s.disk s'.disk ∧ out.1.Relative ∧ p.Output classes b s out.1 ∧
        s'.published = s.published)
      (fun _ s' => p.LeavesCopies s.disk s'.disk) (p.dumped b s) := by
  have hdumped := hp.leavesCopies_dumped hformed hrooted hb
  obtain ⟨hok, herror⟩ := hp.restored_answer classes b hdumped.grows.rooted
  refine BuildPipeline.wp_compileBatch (fun hnone => ?_) fun hsome => wp_compileStaged ?_ ?_ ?_ ?_
  · exact ⟨hdumped, Store.relative_empty, by rw [Output, if_pos hnone], rfl⟩
  · intro target warnings w hw _
    obtain ⟨hrestored, hrelative⟩ := hok _ w hw
    refine ⟨hdumped.restored hrestored, hrelative, ?_, rfl⟩
    rw [Output, if_neg hsome]
    exact ⟨warnings, w, hw⟩
  · exact fun _ _ w hw _ => hdumped.restored (hok _ w hw).1
  · exact fun _ w hw => hdumped.restored (hok _ w hw).1
  · exact fun _ w hw => hdumped.restored (herror _ w hw)

/-- A run that has published the class files of an output: those of its batch. -/
def PublishesOutput (p : BuildPipeline) (classes : Path) (s s' : Session) : Prop :=
  ∃ b target, p.pool.generate (p.projectContext classes) s.disk = .ok b ∧ p.Output classes b s target ∧
    target.Relative ∧
    s'.published.filterMap Publication.classFile? =
      s.published.filterMap Publication.classFile? ++ Registration.compiledClasses target

include hp in
/-- A run leaves copies for debugging behind, and otherwise no trace, however it ends, and publishes the class
    files in the output of its compiler if it ends well. -/
theorem Tidy.wp_run (hformed : s.disk.WellFormed) (hrooted : s.disk.Rooted) :
    wp (p.run classes)
      (fun _ s' => p.LeavesCopies s.disk s'.disk ∧ p.PublishesOutput classes s s')
      (fun _ s' => p.LeavesCopies s.disk s'.disk) s := by
  apply BuildPipeline.wp_run
  · exact fun _ _ => leavesCopies_refl hrooted
  · intro b hb hfiles
    refine ⟨leavesCopies_refl hrooted, b, .empty, hb, ?_, Store.relative_empty, ?_⟩
    · rw [Output, if_pos]
      rw [Batch.sources, hfiles, List.filter_nil]
    · exact (List.append_nil _).symm
  · intro b hb _
    refine (hp.wp_compileBatch hformed hrooted hb).mono ?_ fun _ _ hcopies => hcopies
    rintro ⟨target, warnings⟩ s' ⟨hcopies, hrelative, houtput, hsilent⟩
    refine ⟨fun _ _ => hcopies, fun watched _ => ⟨hcopies, b, target, hb, houtput, hrelative, ?_⟩⟩
    simp only [List.filterMap_append, hsilent]
    rw [filterMap_classFile?_publications]

end BuildPipeline
end Buildwright
