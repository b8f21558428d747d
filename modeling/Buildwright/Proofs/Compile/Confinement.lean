-- SUMMARY: A compilation leaves the disk as it was, however it ends, as long as its command writes only below the output directory.
import Buildwright.Proofs.ClassName.Staging
import Buildwright.Proofs.Compile.Outcome
import Buildwright.Proofs.Disk.Enclosure

/-!
# The traces of a compilation

Sources, class files and whatever else the command writes all lie in the temporary directory of the
compilation, which is removed in the end. Nothing is left but the times of directories. The class files of a
successful compilation are named by their paths from the output directory.
-/
namespace Buildwright

/-! ## The names of a store that is loaded -/

/-- The names of a store are relative paths, without empty pieces. -/
def Store.Relative (store : Store) : Prop :=
  ∀ name ∈ store.names, ∃ texts, name = Text.joined "/" texts ∧
    ∀ text ∈ texts, text ≠ "" ∧ '/' ∉ text.toList

namespace Store

variable {d : Disk} {root : Path} {extension : String} {store : Store}

theorem relative_empty : empty.Relative := by
  intro name hname
  cases hname

theorem Relative.write {name : String} {content : Bytes} (h : store.Relative) {texts : List String}
    (hname : name = Text.joined "/" texts) (htexts : ∀ text ∈ texts, text ≠ "" ∧ '/' ∉ text.toList) :
    (store.write name content).Relative := by
  intro other hother
  rcases mem_names_write.1 hother with rfl | hbefore
  · exact ⟨texts, hname, htexts⟩
  · exact h other hbefore

/-- A store that is loaded from a directory has names relative to it. -/
theorem relative_of_loadFrom (hroot : root.components ≠ []) (h : loadFrom d root extension = .ok store) :
    store.Relative := by
  obtain ⟨files, -, hload⟩ := bind_eq_ok.1 h
  refine foldlM_keeps (P := Relative) (fun s file s' hs hwrite => ?_) relative_empty hload
  unfold writeFile at hwrite
  split at hwrite
  · cases hwrite
    exact hs
  · next relative hrelative =>
    obtain ⟨content, -, rfl⟩ := map_eq_ok.1 hwrite
    refine hs.write rfl fun text htext => ?_
    obtain ⟨c, hc, rfl⟩ := List.mem_map.1 htext
    exact Path.text_of_mem_components (Path.isAbsolute_of_relativeTo? hroot hrelative) hc

end Store

/-! ## Commands that write their output -/

/-- A command that is told to put its output into a directory without links changes nothing outside of that
    directory, however it ends. -/
def CommandRunner.WritesOutput (runner : CommandRunner) : Prop :=
  ∀ (directory program : Path) (output : String) (rest : List String) (d : Disk) (top : Location),
    d.Rooted → d.LeadsTo ⟨output⟩ top → d.NoLinksBelow ⟨output⟩ →
    wp (runner directory program ("-d" :: output :: rest)) (fun _ d' => d.SameOutside d' top)
      (fun _ d' => d.SameOutside d' top) d

namespace JavaCompiler

open Disk

variable {c : JavaCompiler} {names : List String} {sources : Store} {ctx : CompileContext} {work : Path}
  {d before : Disk} {top : Location} {w : Workshop}

/-! ## The temporary directory -/

theorem leadsOn_sourceRoot (hwork : work.text ≠ "") : Path.LeadsOn work ["src"] (sourceRoot work) :=
  leadsOn_join_plain hwork (by decide)

theorem leadsOn_outputRoot (hwork : work.text ≠ "") : Path.LeadsOn work ["classes"] (outputRoot work) :=
  leadsOn_join_plain hwork (by decide)

theorem endsWith_freeTemporary (d : Disk) (label : String) :
    Text.endsWith "/" (d.freeTemporary label).text = false := by
  obtain ⟨n, hn⟩ : ∃ n : Nat, (d.freeTemporary label).text = "/tmp/" ++ label ++ toString n := ⟨_, rfl⟩
  have hne : toString n ≠ "" := fun hempty => Text.toList_toString_ne_nil n (by rw [hempty]; rfl)
  have hdigits : Text.endsWith "/" (toString n) = false := by
    cases hslash : Text.endsWith "/" (toString n) with
    | false => rfl
    | true =>
      obtain ⟨r, hr⟩ := Text.endsWith_eq_true.1 hslash
      have hdigit : '/'.isDigit = true := Text.isDigit_of_mem_toString (n := n) (by simp [hr])
      exact absurd hdigit (by decide)
  rw [hn]
  exact (Text.endsWith_append_of_ne (c := '/') _ hne).trans hdigits

/-- The command is given the output directory first. -/
theorem exists_rest_of_arguments {source target : Path} {arguments : List String}
    (h : c.arguments source target names ctx = .ok arguments) :
    ∃ rest, arguments = "-d" :: target.text :: rest := by
  unfold JavaCompiler.arguments at h
  by_cases hempty : ctx.classpath.isEmpty = true
  · rw [if_pos hempty] at h
    obtain ⟨classpath, -, harguments⟩ := bind_eq_ok.1 h
    cases harguments
    exact ⟨_, rfl⟩
  · rw [if_neg hempty] at h
    obtain ⟨classpath, -, harguments⟩ := bind_eq_ok.1 h
    cases harguments
    exact ⟨_, rfl⟩

/-- The sources of a store are those of classes, under the paths at which they are staged. -/
def StagedNames (sources : Store) : Prop :=
  ∀ name ∈ sources.names, ∃ className, name = ClassName.stagingPath className

/-- Sources are written below the temporary directory. -/
theorem wp_writeTo (hsources : StagedNames sources) (hd : Enclosed.Within before work top d) :
    wp (sources.writeTo (sourceRoot work)) (fun _ => Enclosed.Within before work top)
      (fun _ => Enclosed.Within before work top) d := by
  rw [Store.writeTo_eq]
  refine wp.forM_keeps (fun e he d hd => ?_) hd
  obtain ⟨className, hname⟩ := hsources e.1 (List.mem_map_of_mem he)
  have hsource := leadsOn_sourceRoot hd.1.text_ne
  have hleads := hsource.trans (ClassName.leadsOn_stagingPath hsource.text_ne className)
  have hlength := ClassName.one_lt_length_stagedNames className
  rw [← hname] at hleads
  refine hd.wp_writeWithDirectories hleads ?_
  rw [List.length_append]
  omega

/-- All that has changed lies below a place at which there is still a directory. -/
def Confined (before : Disk) (top : Location) (d : Disk) : Prop :=
  before.SameOutside d top ∧ d.DirectoryAt top

theorem confined_of_within (h : Enclosed.Within before work top d) : Confined before top d := by
  obtain ⟨t, ht⟩ := h.1.leads
  exact ⟨h.2, t, h.1.rooted.resolve_lies ht⟩

/-- The command writes into the temporary directory. -/
theorem wp_run_command (hrunner : c.runner.WritesOutput) {arguments : List String}
    (harguments : c.arguments (sourceRoot work) (outputRoot work) names ctx = .ok arguments)
    (hd : Enclosed.Within before work top d) (hleads : ∃ place, d.LeadsTo (outputRoot work) place) :
    wp (c.runner work c.program arguments) (fun _ => Confined before top) (fun _ => Confined before top)
      d := by
  obtain ⟨rest, rfl⟩ := exists_rest_of_arguments harguments
  obtain ⟨place, hplace⟩ := hleads
  have houtput := leadsOn_outputRoot hd.1.text_ne
  have hlocation : ∀ {place}, d.LeadsTo (outputRoot work) place → place = top ++ ["classes"] :=
    hd.1.leadsTo houtput (by simp)
  obtain rfl := hlocation hplace
  have hlinks : d.NoLinksBelow (outputRoot work) := by
    intro place' hplace' names target
    rw [hlocation hplace', List.append_assoc]
    exact hd.1.unlinked _ target
  obtain ⟨hsame, t, ht⟩ := confined_of_within hd
  have hconfined : ∀ d', d.SameOutside d' (top ++ ["classes"]) → Confined before top d' := by
    intro d' hd'
    refine ⟨hsame.trans (hd'.widen (List.prefix_append _ _)), ?_⟩
    by_cases hnil : top = []
    · rw [hnil]
      exact directoryAt_nil d'
    · refine ⟨t, (hd'.find? hnil fun hbelow => ?_).trans ht⟩
      simpa using hbelow.length_le
  exact (hrunner work c.program _ rest d _ hd.1.rooted hplace hlinks).mono (fun _ => hconfined)
    fun _ => hconfined

/-! ## The compilation -/

/-- The output of a success has relative names. -/
def RelativeTarget : CompilationOutcome → Prop
  | .success target _ => target.Relative
  | .failure _ => True

theorem relativeTarget_ofDiagnostics {target : Store} (h : target.Relative) (ds : List Diagnostic) :
    RelativeTarget (.ofDiagnostics target ds) := by
  unfold CompilationOutcome.ofDiagnostics
  split
  · exact h
  · trivial

theorem wp_orFail {α : Type} {r : Except CompileError α} {Q : α → Workshop → Prop}
    {E : CompileError → Workshop → Prop} (hok : ∀ a, r = .ok a → Q a w) (herror : ∀ e, E e w) :
    wp (orFail r) Q E w := by
  cases r with
  | ok a => exact wp.pure (hok a rfl)
  | error e => exact wp.throw (herror e)

/-- Whatever a compilation does, it does in its temporary directory. -/
theorem wp_compileIn_confined (hrunner : c.runner.WritesOutput) (hsources : StagedNames sources)
    (hw : w.disk.Enclosed work top) :
    wp (c.compileIn names sources ctx work)
      (fun o w' => Confined w.disk top w'.disk ∧ RelativeTarget o)
      (fun _ w' => Confined w.disk top w'.disk) w := by
  have houtput := leadsOn_outputRoot hw.text_ne
  unfold compileIn
  refine wp.bind (wp.onWorkshopDisk ((wp_writeTo hsources ⟨hw, .refl _ _⟩).mono ?_
    fun _ _ => confined_of_within))
  intro _ written hwritten
  refine wp.bind (wp.onWorkshopDisk (wp.mono ?_ ?_ ((hwritten.wp_createDirectories houtput (by simp)).and
    (hwritten.1.rooted.wp_createDirectories_leadsTo houtput.text_ne))))
  case refine_2 => exact fun _ _ hfails => confined_of_within hfails.1
  rintro _ staged ⟨hstaged, hleads⟩
  refine wp.bind (wp_orFail (fun arguments harguments => ?_) fun _ => confined_of_within hstaged)
  refine wp.bind (wp.note ?_)
  refine wp.bind (wp.onWorkshopDisk ((wp_run_command hrunner harguments hstaged hleads).mono ?_
    fun _ _ hd' => hd'))
  intro output after hafter
  -- The command has been run, and nothing is written any more.
  refine wp.bind (wp_orFail (fun ds _ => ?_) fun _ => hafter)
  split
  · exact wp.bind (wp.pure (wp.pure ⟨hafter, relativeTarget_ofDiagnostics Store.relative_empty ds⟩))
  · refine wp.bind (wp.onWorkshopDisk (wp.diskLook (fun target htarget => ?_) fun _ _ => hafter))
    have hrelative := Store.relative_of_loadFrom (Path.components_ne_nil houtput.text_ne) htarget
    exact wp.pure ⟨hafter, relativeTarget_ofDiagnostics hrelative ds⟩

theorem wp_requireSources {Q : Unit → Workshop → Prop} {E : CompileError → Workshop → Prop}
    (hok : Q () w) (herror : ∀ e, E e w) : wp (names.forM (requireSource sources)) Q E w := by
  by_cases hnames : ∀ name ∈ names, name ∈ sources.names
  · exact wp_requireSources_of_present hnames hok
  · have hmissing : ∃ name ∈ names, name ∉ sources.names := by simpa using hnames
    refine (wp_requireSources_of_missing hmissing).mono (fun _ _ => False.elim) ?_
    rintro e _ ⟨-, rfl⟩
    exact herror e

/-- A compilation leaves the disk as it was, up to the times of directories, whether or not it has an
    outcome, and the output of a success has relative names. -/
theorem wp_compile_restored (hrunner : c.runner.WritesOutput) (hsources : StagedNames sources)
    (hd : w.disk.Rooted) :
    wp (c.toCompiler.compile names sources ctx)
      (fun o w' => w.disk.Restored w'.disk ∧ RelativeTarget o) (fun _ w' => w.disk.Restored w'.disk) w := by
  refine wp.bind (wp_requireSources ?_ fun _ => .refl _)
  refine wp.withTemporary (fun created hcreate => ?_) fun _ _ => .refl _
  have hslash := endsWith_freeTemporary w.disk workLabel
  generalize w.disk.freeTemporary workLabel = work at hcreate hslash ⊢
  obtain ⟨directory, name, hlocate, rfl⟩ := createDirectory_eq_ok.1 hcreate
  have henclosed := hd.enclosed_addIn hlocate hslash w.disk.now
  refine (wp_compileIn_confined (w := ⟨_, w.commands⟩) hrunner hsources henclosed).mono ?_ ?_
  · rintro o w' ⟨⟨hsame, hstill⟩, htarget⟩
    exact ⟨hd.restored_removeAll hlocate hsame hstill, htarget⟩
  · rintro _ w' ⟨hsame, hstill⟩
    exact hd.restored_removeAll hlocate hsame hstill

end JavaCompiler
end Buildwright
