-- SUMMARY: An incremental compilation changes the output directory only if it ends well, and then by the files that it reports.
import Buildwright.Proofs.Build.Copying
import Buildwright.Proofs.Dev.Providers
import Buildwright.Proofs.Dev.StoreNames
import Buildwright.Proofs.Disk.Inside

/-!
# What a compilation reports

The Java provider has the compiler make a target in memory, and writes it below the output directory. All that
can fail before, reading the sources and compiling them, comes before the first file is written. As long as the
compiler itself keeps out of the output directory, a compilation that stops there has changed nothing inside.
The files of a target with plain names go to places of their own: each can be read in the end, and they are the
only ones that have changed.
-/
namespace Buildwright

open Disk

/-- A compiler that changes nothing inside the output directory, however it ends. -/
def Compiler.KeepsInside (c : Compiler) : Prop :=
  ∀ names sources ctx (w : Workshop), w.disk.Rooted →
    wp (c.compile names sources ctx) (fun _ w' => w.disk.KeptInside w'.disk ctx.output)
      (fun _ w' => w.disk.KeptInside w'.disk ctx.output) w

namespace Store

variable {target : Store} {output : Path} {before left after d : Disk}

/-- The files of a target are below an output directory, and nothing but these files has been changed: neither
    inside the directory since `before`, nor anywhere else since `left`. -/
structure WrittenExactly (target : Store) (output : Path) (before left after : Disk) : Prop where
  read_eq : ∀ name content, (name, content) ∈ target.entries → after.read (output.join ⟨name⟩) = .ok content
  elsewhere : ∀ place, (∀ name ∈ target.names, ¬ after.LeadsTo (output.join ⟨name⟩) place) →
    left.FilesAgree after place
  inside : ∀ place, before.Inside output place →
    (∀ name ∈ target.names, ¬ after.LeadsTo (output.join ⟨name⟩) place) → before.FilesAgree after place

/-- A target with plain names is written exactly, if the output directory has no links and nothing inside it has
    changed before. -/
theorem writtenExactly_of_writeTo (hplain : ∀ name ∈ target.names, PlainPath name)
    (hkept : before.KeptInside left output) (hlinks : before.NoLinksInside output)
    (h : target.writeTo output left = .ok () after) : target.WrittenExactly output before left after := by
  rw [writeTo_eq] at h
  have hnames : ∀ e ∈ target.files.entries, PlainPath e.1 := fun e he => hplain e.1 (List.mem_map_of_mem he)
  obtain ⟨hgrows, helsewhere⟩ := (hkept.rooted.wp_writeAll_unlinked output target.files.entries).of_ok h
  have hreads := (hkept.rooted.wp_writeAll_below output hnames target.files.keys_nodup).of_ok h
    ((hkept.noLinksInside hlinks).noLinksBelow hgrows)
  have hothers : ∀ place, (∀ name ∈ target.names, ¬ after.LeadsTo (output.join ⟨name⟩) place) →
      left.FilesAgree after place :=
    fun place hnone => helsewhere place fun e he => hnone e.1 (List.mem_map_of_mem he)
  exact ⟨fun name content hentry => hreads (name, content) hentry, hothers,
    fun place hinside hnone => (hkept.filesAgree hinside).trans (hothers place hnone)⟩

end Store

namespace JavaProvider

variable {java : JavaProvider} {files : SortedSet Path} {ctx : CompileContext} {s : Session}

/-! ## Compilations -/

/-- A compilation stops before it writes: at a source that cannot be read, or at what the compiler says. -/
inductive Stops (java : JavaProvider) (files : SortedSet Path) (ctx : CompileContext) (d : Disk) : Prop
  | unreadable (file : Path) (e : IoError) (hfile : file ∈ files.keys) (h : d.read file = .error e)
  | refused (staged : List String × Store) (errors : List Diagnostic) (w : Workshop)
      (hstaged : stage files.keys d = .ok staged) (h : java.answer staged ctx d = .ok (.failure errors) w)
  | failed (staged : List String × Store) (e : CompileError) (w : Workshop)
      (hstaged : stage files.keys d = .ok staged) (h : java.answer staged ctx d = .error e w)

/-- The compiler has been called at most once: for all files in their order, each under its store name, and with
    the output directory in the class path. -/
def CalledAtMostOnce (java : JavaProvider) (files : SortedSet Path) (ctx : CompileContext) (s s' : Session) :
    Prop :=
  s'.calls = s.calls ∨ ∃ sources commands,
    stage files.keys s.disk = .ok (files.keys.map storeName, sources) ∧
    s'.calls = s.calls ++
      [⟨java.compiler.name, files.keys.map storeName, sources, ctx.withClasspath [ctx.output], commands⟩]

/-- What a compilation does to the output directory is what it reports. -/
structure ReportsExactly (java : JavaProvider) (files : SortedSet Path) (ctx : CompileContext) (s : Session) :
    Prop where
  /-- A compilation that stops fails, and nothing inside the output directory has changed. -/
  stopped : java.Stops files ctx s.disk →
    ∃ e s', java.compile files ctx s = .error e s' ∧ s.disk.KeptInside s'.disk ctx.output
  /-- One that ends well reports the files of the target that the compiler has made, and these it has written. -/
  written : ∀ o s', java.compile files ctx s = .ok o s' →
    ∃ staged target w, stage files.keys s.disk = .ok staged ∧
      java.answer staged ctx s.disk = .ok (.success target o.warnings) w ∧
      o.written = target.names.map (fun name => ctx.output.join ⟨name⟩) ∧
      ((∀ name ∈ target.names, PlainPath name) →
        target.WrittenExactly ctx.output s.disk w.disk s'.disk)
  /-- Whichever way it ends, the compiler has been called at most once. -/
  called : wp (java.compile files ctx) (fun _ => java.CalledAtMostOnce files ctx s)
    (fun _ => java.CalledAtMostOnce files ctx s) s

theorem calledAtMostOnce_afterAnswer {staged : List String × Store} (w : Workshop) (d : Disk)
    (hstaged : stage files.keys s.disk = .ok staged) :
    java.CalledAtMostOnce files ctx s { java.afterAnswer staged ctx s w with disk := d } := by
  obtain ⟨names, sources⟩ := staged
  obtain rfl := names_of_stage hstaged
  exact .inr ⟨sources, w.commands, hstaged, rfl⟩

section Compile

variable (hfiles : files.isEmpty = false)

include hfiles in
theorem wp_compile_called :
    wp (java.compile files ctx) (fun _ => java.CalledAtMostOnce files ctx s)
      (fun _ => java.CalledAtMostOnce files ctx s) s := by
  refine wp_compile hfiles (fun _ _ => .inl rfl) (fun staged _ w hstaged _ => ?_)
    (fun staged _ w hstaged _ => ?_) fun staged _ _ w hstaged _ => ?_
  · exact calledAtMostOnce_afterAnswer w w.disk hstaged
  · exact calledAtMostOnce_afterAnswer w w.disk hstaged
  · exact wp.mono (fun _ d' _ => calledAtMostOnce_afterAnswer w d' hstaged)
      (fun _ d' _ => calledAtMostOnce_afterAnswer w d' hstaged) wp.trivial

variable (hd : s.disk.Rooted) (hcompiler : java.compiler.KeepsInside)

include hd hcompiler in
/-- The compiler, whatever it says, leaves the output directory as it was. -/
theorem wp_answer (staged : List String × Store) (ctx : CompileContext) :
    wp (java.compiler.compile staged.1 staged.2 (ctx.withClasspath [ctx.output]))
      (fun _ w => s.disk.KeptInside w.disk ctx.output) (fun _ w => s.disk.KeptInside w.disk ctx.output)
      ⟨s.disk, []⟩ :=
  hcompiler staged.1 staged.2 (ctx.withClasspath [ctx.output]) ⟨s.disk, []⟩ hd

include hfiles hd hcompiler in
/-- A compilation that stops cannot get as far as to write. -/
theorem wp_compile_stopped (h : java.Stops files ctx s.disk) :
    wp (java.compile files ctx) (fun _ _ => False) (fun _ s' => s.disk.KeptInside s'.disk ctx.output) s := by
  refine wp_compile hfiles (fun _ _ => hd.keptInside _) (fun staged _ w _ hanswer => ?_)
    (fun staged _ w _ hanswer => ?_) fun staged target warnings w hstaged hanswer => ?_
  · exact (wp_answer hd hcompiler staged ctx).of_error hanswer
  · exact (wp_answer hd hcompiler staged ctx).of_ok hanswer
  · cases h with
    | unreadable file e hfile hread =>
      obtain ⟨content, hcontent⟩ := exists_read_of_stage hstaged hfile
      rw [hread] at hcontent
      cases hcontent
    | refused staged' errors w' hstaged' hanswer' =>
      obtain rfl := Except.ok.inj (hstaged.symm.trans hstaged')
      rw [hanswer] at hanswer'
      cases hanswer'
    | failed staged' e w' hstaged' hanswer' =>
      obtain rfl := Except.ok.inj (hstaged.symm.trans hstaged')
      rw [hanswer] at hanswer'
      cases hanswer'

include hfiles in
/-- A compilation that ends well has written the target that the compiler has made. -/
theorem wp_compile_written :
    wp (java.compile files ctx)
      (fun o s' => ∃ staged target w, stage files.keys s.disk = .ok staged ∧
        java.answer staged ctx s.disk = .ok (.success target o.warnings) w ∧
        o.written = target.names.map (fun name => ctx.output.join ⟨name⟩) ∧
        target.writeTo ctx.output w.disk = .ok () s'.disk)
      (fun _ _ => True) s := by
  refine wp_compile hfiles (fun _ _ => trivial) (fun _ _ _ _ _ => trivial) (fun _ _ _ _ _ => trivial) ?_
  intro staged target warnings w hstaged hanswer
  cases hrun : target.writeTo ctx.output w.disk with
  | ok u d' => exact wp.run_ok hrun ⟨staged, target, w, hstaged, hanswer, rfl, hrun⟩
  | error e d' => exact wp.run_error hrun trivial

end Compile

/-! ## Classes of earlier builds -/

theorem keepsInside_copying : Compiler.copying.KeepsInside := by
  intro names sources ctx w hw
  have hkept := hw.keptInside ctx.output
  cases hcopied : sources.copySources .empty names with
  | ok target =>
    have hrun : Compiler.copying.compile names sources ctx w = .ok (.ofDiagnostics target []) w := by
      simp only [Compiler.copying, hcopied]
    exact wp.run_ok hrun hkept
  | error e =>
    have hrun : Compiler.copying.compile names sources ctx w = .error (.store e) w := by
      simp only [Compiler.copying, hcopied]
    exact wp.run_error hrun hkept

/-- A disk with two sources, one of them a link to the other, and a class of an earlier build. -/
def earlierBuild : Disk where
  entries := [(["p"], .directory 0), (["p", "A.java"], .file ⟨Text.encode "class A {}", 0, false⟩),
    (["p", "B.java"], .link "A.java"), (["out"], .directory 0), (["out", "p"], .directory 0),
    (["out", "p", "C.class"], .file ⟨Text.encode "class C {}", 0, false⟩)]
  workingDirectory := []
  now := 0

theorem rooted_earlierBuild : earlierBuild.Rooted :=
  .of_entries (by decide) (by decide)

/-- The two sources. -/
def linkedSources : SortedSet Path :=
  .setOf ["/p/A.java", "/p/B.java"]

/-- The link is not inside the output directory. -/
theorem noLinksInside_earlierBuild : earlierBuild.NoLinksInside "/out" := by
  have hleads : earlierBuild.LeadsTo "/out" ["out"] :=
    leadsTo_of_resolve (e := .directory 0) (by decide)
  have hentries : ∀ x ∈ earlierBuild.entries, ["out"] <+: x.1 → ∀ target, x.2 ≠ .link target := by
    simp [earlierBuild]
  intro place target hinside hlink
  obtain ⟨names, -, rfl⟩ := (inside_iff rooted_earlierBuild hleads).1 hinside
  exact hentries _ (mem_of_find? (by simp) hlink) (List.prefix_append _ names) target rfl

end JavaProvider
end Buildwright
