-- SUMMARY: What publishing to a directory writes, what the manifest notes of it, and when it notes no failure.
import Buildwright.Cli.Manifest
import Buildwright.Proofs.WeakestPre

/-!
# Publishing class files to a directory

Publishing a class tries to write its class file, once, at a path that depends on its name only. The manifest
notes the path, or the failure, and publishing goes on. Other publications write nothing. No failure is noted
exactly if all class files can be written one after the other.
-/
namespace Buildwright

/-- The class name and the content of a class file that is published. -/
def Publication.classFile? : Publication → Option (String × Bytes)
  | .generatedClass name content _ | .generatedBean name content => some (name, content)
  | _ => none

namespace Cli.Manifest

/-- One attempt to write `content` to `path` leads from one manifest and disk to others: the disk is what
    the attempt left behind, and the manifest notes either the path or the failure. -/
inductive Attempted (path : Path) (content : Bytes) (before after : Manifest × Disk) : Prop where
  | written (hwrite : Disk.writeWithDirectories path content before.2 = .ok () after.2)
      (hpaths : after.1.written = before.1.written ++ [path])
      (herrors : after.1.errors = before.1.errors)
  | failed (e : IoError) (hwrite : Disk.writeWithDirectories path content before.2 = .error e after.2)
      (hpaths : after.1.written = before.1.written)
      (herrors : after.1.errors =
        before.1.errors ++ ["failed to write " ++ path.text ++ ": " ++ e.message])

variable {classes : Path} {m : Manifest × Disk} {r : Publication} {name : String} {content : Bytes}

theorem attempted_writeClass (classes : Path) (m : Manifest × Disk) (name : String) (content : Bytes) :
    Attempted (classes.join ⟨ClassName.classFilePath name⟩) content m
      (writeClass classes m name content) := by
  unfold writeClass
  extract_lets path
  cases hwrite : Disk.writeWithDirectories path content m.2 with
  | ok _ d => exact .written hwrite rfl rfl
  | error e d => exact .failed e hwrite rfl rfl

/-- Only the paths, the failures and the disk count for an attempt. -/
theorem Attempted.congr {path : Path} {before after after' : Manifest × Disk}
    (h : Attempted path content before after) (hdisk : after'.2 = after.2)
    (hpaths' : after'.1.written = after.1.written) (herrors' : after'.1.errors = after.1.errors) :
    Attempted path content before after' := by
  cases h with
  | written hwrite hpaths herrors =>
    exact .written (hdisk ▸ hwrite) (hpaths'.trans hpaths) (herrors'.trans herrors)
  | failed e hwrite hpaths herrors =>
    exact .failed e (hdisk ▸ hwrite) (hpaths'.trans hpaths) (herrors'.trans herrors)

/-- A class file is published by one attempt to write it, as a class and as a bean alike. -/
theorem attempted_publish (h : r.classFile? = some (name, content)) :
    Attempted (classes.join ⟨ClassName.classFilePath name⟩) content m (publish classes m r) := by
  have hwrite := attempted_writeClass classes m name content
  cases r with
  | generatedClass name' content' application =>
    cases h
    rw [publish]
    exact hwrite
  | generatedBean name' content' =>
    cases h
    rw [publish]
    generalize writeClass classes m name content = after at hwrite ⊢
    exact hwrite.congr rfl rfl rfl
  | _ => cases h

/-! ## All class files -/

/-- The class files of what is published: their paths, and their contents. -/
def classFiles (ps : List Publication) : List (String × Bytes) :=
  (ps.filterMap Publication.classFile?).map fun c => (ClassName.classFilePath c.1, c.2)

/-- Writes the class files of what is published below a directory, one after the other and up to the first
    that cannot be written. -/
def writeClassFiles (classes : Path) (ps : List Publication) : DiskM Unit :=
  (classFiles ps).forM fun e => Disk.writeWithDirectories (classes.join ⟨e.1⟩) e.2

variable {ps : List Publication}

/-- Publishing anything but a class writes nothing. -/
theorem publish_of_classFile?_eq_none (classes : Path) (m : Manifest × Disk) (h : r.classFile? = none) :
    (publish classes m r).2 = m.2 ∧ (publish classes m r).1.errors = m.1.errors := by
  cases r with
  | generatedClass name content application => cases h
  | generatedBean name content => cases h
  | _ =>
    rw [publish]
    exact ⟨rfl, rfl⟩

/-- No failure is taken back. -/
theorem length_errors_le_publish (classes : Path) (m : Manifest × Disk) (r : Publication) :
    m.1.errors.length ≤ (publish classes m r).1.errors.length := by
  cases hr : r.classFile? with
  | none => exact Nat.le_of_eq (congrArg List.length (publish_of_classFile?_eq_none classes m hr).2).symm
  | some c =>
    have hattempt : Attempted (classes.join ⟨ClassName.classFilePath c.1⟩) c.2 m (publish classes m r) :=
      attempted_publish hr
    cases hattempt with
    | written _ _ herrors => exact Nat.le_of_eq (congrArg List.length herrors).symm
    | failed _ _ _ herrors =>
      rw [herrors, List.length_append]
      exact Nat.le_add_right _ _

theorem length_errors_le_foldl (classes : Path) (m : Manifest × Disk) (ps : List Publication) :
    m.1.errors.length ≤ (ps.foldl (publish classes) m).1.errors.length := by
  induction ps generalizing m with
  | nil => exact Nat.le_refl _
  | cons r rest ih =>
    rw [List.foldl_cons]
    exact Nat.le_trans (length_errors_le_publish classes m r) (ih _)

/-- Publishing writes as writing all class files does, as long as that goes well, and notes a failure as soon
    as it does not. -/
theorem wp_writeClassFiles (classes : Path) (m : Manifest × Disk) (ps : List Publication) :
    wp (writeClassFiles classes ps)
      (fun _ d => (ps.foldl (publish classes) m).2 = d ∧
        (ps.foldl (publish classes) m).1.errors = m.1.errors)
      (fun _ _ => m.1.errors.length < (ps.foldl (publish classes) m).1.errors.length) m.2 := by
  induction ps generalizing m with
  | nil => exact wp.pure ⟨rfl, rfl⟩
  | cons r rest ih =>
    rw [List.foldl_cons]
    have hrest := ih (publish classes m r)
    cases hr : r.classFile? with
    | none =>
      obtain ⟨hdisk, herrors⟩ := publish_of_classFile?_eq_none classes m hr
      have hfiles : writeClassFiles classes (r :: rest) = writeClassFiles classes rest := by
        rw [writeClassFiles, classFiles, List.filterMap_cons_none hr]
        rfl
      rw [hdisk, herrors] at hrest
      rw [hfiles]
      exact hrest
    | some c =>
      have hfiles : classFiles (r :: rest) =
          (ClassName.classFilePath c.1, c.2) :: classFiles rest := by
        rw [classFiles, List.filterMap_cons_some hr]
        rfl
      have hattempt : Attempted (classes.join ⟨ClassName.classFilePath c.1⟩) c.2 m (publish classes m r) :=
        attempted_publish hr
      have hmore := length_errors_le_foldl classes (publish classes m r) rest
      rw [writeClassFiles, hfiles]
      generalize publish classes m r = m' at hrest hattempt hmore ⊢
      refine wp.forM_cons ?_
      cases hattempt with
      | written hwrite _ herrors =>
        rw [herrors] at hrest
        exact wp.run_ok hwrite hrest
      | failed e hwrite _ herrors =>
        rw [herrors, List.length_append] at hmore
        exact wp.run_error hwrite (Nat.lt_of_lt_of_le (Nat.lt_succ_self _) hmore)

/-- No failure is noted exactly if all class files can be written, and then the disk is the one on which they
    are. -/
theorem errors_publishAll_eq_nil_iff (classes : Path) (ps : List Publication) (d : Disk) :
    (publishAll classes ps d).1.errors = [] ↔
      writeClassFiles classes ps d = .ok () (publishAll classes ps d).2 := by
  have hwrites := wp_writeClassFiles classes ({}, d) ps
  unfold publishAll
  generalize ps.foldl (publish classes) ({}, d) = after at hwrites ⊢
  cases hrun : writeClassFiles classes ps d with
  | ok u d' =>
    obtain ⟨hdisk, herrors⟩ := hwrites.of_ok hrun
    simp [hdisk, herrors]
  | error e d' =>
    have hsome := hwrites.of_error hrun
    have hne : after.1.errors ≠ [] := by
      intro hnil
      rw [hnil] at hsome
      exact absurd hsome (Nat.not_lt_zero _)
    simp [hne]

end Cli.Manifest
end Buildwright
