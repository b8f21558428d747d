-- SUMMARY: Weakest preconditions of computations that keep a state and may fail, with one rule for each step of a session.
import Mathlib.Data.List.Forall2
import Mathlib.Data.List.Induction
import Buildwright.Build.Session

/-!
# Weakest preconditions

A computation that keeps a state ends well with a result, or fails. `wp` says what has to hold of the
state it starts in for either ending to be as wanted. Each way to build a computation has one rule, and
proofs about builds go through the rules alone.

The last sections have the rules of results without a state, of folds over them, and of computations that go
on from others.
-/
namespace Buildwright

variable {ε ε' σ α β : Type}

/-- Endings with results and states that can be compared can be compared. -/
instance decidableEqResult [DecidableEq ε] [DecidableEq σ] [DecidableEq α] :
    DecidableEq (EStateM.Result ε σ α)
  | .ok a s, .ok a' s' => decidable_of_iff (a = a' ∧ s = s') (by simp)
  | .error e s, .error e' s' => decidable_of_iff (e = e' ∧ s = s') (by simp)
  | .ok _ _, .error _ _ => isFalse (by simp)
  | .error _ _, .ok _ _ => isFalse (by simp)

/-- `m`, started in `s`, ends well as `Q` says or fails as `E` says. -/
def wp (m : EStateM ε σ α) (Q : α → σ → Prop) (E : ε → σ → Prop) (s : σ) : Prop :=
  match m s with
  | .ok a s' => Q a s'
  | .error e s' => E e s'

/-- On a state, a computation can be run to see whether it ends as wanted. -/
instance decidableWp {m : EStateM ε σ α} {Q : α → σ → Prop} {E : ε → σ → Prop} {s : σ}
    [∀ a s', Decidable (Q a s')] [∀ e s', Decidable (E e s')] : Decidable (wp m Q E s) :=
  match h : m s with
  | .ok a s' => decidable_of_iff (Q a s') (by rw [wp, h])
  | .error e s' => decidable_of_iff (E e s') (by rw [wp, h])

/-! ## Core rules -/

theorem wp.pure {a : α} {Q : α → σ → Prop} {E : ε → σ → Prop} {s : σ} (h : Q a s) :
    wp (Pure.pure a) Q E s :=
  h

theorem wp.throw {e : ε} {Q : α → σ → Prop} {E : ε → σ → Prop} {s : σ} (h : E e s) :
    wp (MonadExcept.throw e : EStateM ε σ α) Q E s :=
  h

theorem wp.bind {m : EStateM ε σ α} {f : α → EStateM ε σ β} {Q : β → σ → Prop} {E : ε → σ → Prop}
    {s : σ} (h : wp m (fun a => wp (f a) Q E) E s) : wp (m >>= f) Q E s := by
  unfold wp at h ⊢
  show match EStateM.bind m f s with | .ok a s' => Q a s' | .error e s' => E e s'
  unfold EStateM.bind
  cases hm : m s with
  | ok a s' => simpa only [hm] using h
  | error e s' => simpa only [hm] using h

theorem wp.forM_cons {f : α → EStateM ε σ PUnit} {a : α} {as : List α} {Q : PUnit → σ → Prop}
    {E : ε → σ → Prop} {s : σ} (h : wp (f a) (fun _ => wp (as.forM f) Q E) E s) :
    wp ((a :: as).forM f) Q E s :=
  wp.bind h

theorem wp.mono {m : EStateM ε σ α} {Q Q' : α → σ → Prop} {E E' : ε → σ → Prop} {s : σ}
    (hQ : ∀ a s', Q a s' → Q' a s') (hE : ∀ e s', E e s' → E' e s') (h : wp m Q E s) :
    wp m Q' E' s := by
  unfold wp at h ⊢
  cases hm : m s with
  | ok a s' => exact hQ a s' (by simpa only [hm] using h)
  | error e s' => exact hE e s' (by simpa only [hm] using h)

theorem wp.trivial {m : EStateM ε σ α} {s : σ} : wp m (fun _ _ => True) (fun _ _ => True) s := by
  unfold wp
  cases m s with
  | ok a s' => exact True.intro
  | error e s' => exact True.intro

/-- What every step of a loop keeps, the loop keeps. -/
theorem wp.forM_keeps {I : σ → Prop} {f : α → EStateM ε σ PUnit} {as : List α} {E : ε → σ → Prop} {s : σ}
    (hstep : ∀ a ∈ as, ∀ s, I s → wp (f a) (fun _ => I) E s) (h : I s) :
    wp (as.forM f) (fun _ => I) E s := by
  induction as generalizing s with
  | nil => exact wp.pure h
  | cons a rest ih =>
    obtain ⟨hfirst, hrest⟩ := List.forall_mem_cons.1 hstep
    exact wp.forM_cons ((hfirst s h).mono (fun _ _ => ih hrest) fun _ _ he => he)

/-- Whatever is known of a computation is known together. -/
theorem wp.and {m : EStateM ε σ α} {Q Q' : α → σ → Prop} {E E' : ε → σ → Prop} {s : σ} (h : wp m Q E s)
    (h' : wp m Q' E' s) : wp m (fun a s' => Q a s' ∧ Q' a s') (fun e s' => E e s' ∧ E' e s') s := by
  unfold wp at h h' ⊢
  cases hm : m s with
  | ok a s' =>
    rw [hm] at h h'
    exact ⟨h, h'⟩
  | error e s' =>
    rw [hm] at h h'
    exact ⟨h, h'⟩

/-- What is known of a computation holds of its result. -/
theorem wp.of_ok {m : EStateM ε σ α} {Q : α → σ → Prop} {E : ε → σ → Prop} {s s' : σ} {a : α}
    (h : wp m Q E s) (hm : m s = .ok a s') : Q a s' := by
  unfold wp at h
  rw [hm] at h
  exact h

/-- What is known of a computation holds of its failure. -/
theorem wp.of_error {m : EStateM ε σ α} {Q : α → σ → Prop} {E : ε → σ → Prop} {s s' : σ} {e : ε}
    (h : wp m Q E s) (hm : m s = .error e s') : E e s' := by
  unfold wp at h
  rw [hm] at h
  exact h

/-- Once a computation is known to end well, only its result matters. -/
theorem wp.run_ok {m : EStateM ε σ α} {Q : α → σ → Prop} {E : ε → σ → Prop} {s s' : σ} {a : α}
    (hm : m s = .ok a s') (h : Q a s') : wp m Q E s := by
  unfold wp
  rw [hm]
  exact h

theorem wp.run_error {m : EStateM ε σ α} {Q : α → σ → Prop} {E : ε → σ → Prop} {s s' : σ} {e : ε}
    (hm : m s = .error e s') (h : E e s') : wp m Q E s := by
  unfold wp
  rw [hm]
  exact h

/-- A computation that must not fail returns. -/
theorem wp.returns {m : EStateM ε σ α} {Q : α → σ → Prop} {s : σ}
    (h : wp m Q (fun _ _ => False) s) : ∃ a s', m s = .ok a s' ∧ Q a s' := by
  unfold wp at h
  cases hm : m s with
  | ok a s' => exact ⟨a, s', rfl, by simpa only [hm] using h⟩
  | error e s' => simp only [hm] at h

/-- A computation that must not return fails. -/
theorem wp.fails {m : EStateM ε σ α} {E : ε → σ → Prop} {s : σ}
    (h : wp m (fun _ _ => False) E s) : ∃ e s', m s = .error e s' ∧ E e s' := by
  unfold wp at h
  cases hm : m s with
  | ok a s' => simp only [hm] at h
  | error e s' => exact ⟨e, s', rfl, by simpa only [hm] using h⟩

/-! ## Sessions -/

theorem wp.look {wrap : ε → ε'} {f : Disk → Except ε α} {Q : α → Session → Prop}
    {E : ε' → Session → Prop} {s : Session} (hok : ∀ a, f s.disk = .ok a → Q a s)
    (herror : ∀ e, f s.disk = .error e → E (wrap e) s) : wp (Session.look wrap f) Q E s := by
  unfold wp Session.look
  cases hf : f s.disk with
  | ok a => exact hok a hf
  | error e => exact herror e hf

theorem wp.publish {ps : List Publication} {Q : Unit → Session → Prop} {E : ε → Session → Prop}
    {s : Session} (h : Q () { s with published := s.published ++ ps }) :
    wp (Session.publish ps) Q E s :=
  h

theorem wp.wrapping {wrap : ε → ε'} {m : EStateM ε Session α} {Q : α → Session → Prop}
    {E : ε' → Session → Prop} {s : Session} (h : wp m Q (fun e => E (wrap e)) s) :
    wp (Session.wrapping wrap m) Q E s := by
  unfold wp at h
  unfold wp Session.wrapping
  cases hm : m s with
  | ok a s' => simpa only [hm] using h
  | error e s' => simpa only [hm] using h

/-- A call of a compiler is recorded however it ends, and nothing else becomes known of it. -/
theorem wp.compile {c : Compiler} {names : List String} {sources : Store} {ctx : CompileContext}
    {Q : CompilationOutcome → Session → Prop} {E : CompileError → Session → Prop} {s : Session}
    (hok : ∀ o w, c.compile names sources ctx ⟨s.disk, []⟩ = .ok o w →
      Q o (s.afterCall c names sources ctx w))
    (herror : ∀ e w, c.compile names sources ctx ⟨s.disk, []⟩ = .error e w →
      E e (s.afterCall c names sources ctx w)) :
    wp (Session.compile c names sources ctx) Q E s := by
  unfold wp Session.compile
  cases hc : c.compile names sources ctx ⟨s.disk, []⟩ with
  | ok o w => exact hok o w hc
  | error e w => exact herror e w hc

theorem wp.onSessionDisk {wrap : IoError → ε'} {m : DiskM α} {Q : α → Session → Prop}
    {E : ε' → Session → Prop} {s : Session}
    (h : wp m (fun a d => Q a { s with disk := d }) (fun e d => E (wrap e) { s with disk := d }) s.disk) :
    wp (Session.onDisk wrap m) Q E s := by
  unfold wp at h
  unfold wp Session.onDisk
  cases hm : m s.disk with
  | ok a d => simpa only [hm] using h
  | error e d => simpa only [hm] using h

/-! ## Workshops -/

section Workshop

variable {Q : α → Workshop → Prop} {E : CompileError → Workshop → Prop} {w : Workshop}

theorem wp.onWorkshopDisk {m : DiskM α}
    (h : wp m (fun a d => Q a { w with disk := d }) (fun e d => E (.io e) { w with disk := d }) w.disk) :
    wp (Workshop.onDisk m) Q E w := by
  unfold wp at h
  unfold wp Workshop.onDisk
  cases hm : m w.disk with
  | ok a d => simpa only [hm] using h
  | error e d => simpa only [hm] using h

theorem wp.onWorkshopDisk_of_ok {m : DiskM α} {a : α} {d : Disk} (hm : m w.disk = .ok a d)
    (h : Q a { w with disk := d }) : wp (Workshop.onDisk m) Q E w := by
  unfold wp Workshop.onDisk
  rw [hm]
  exact h

theorem wp.note {directory program : Path} {arguments : List String} {Q : Unit → Workshop → Prop}
    (h : Q () { w with commands := w.commands ++ [⟨directory, program, arguments, w.disk⟩] }) :
    wp (Workshop.note directory program arguments) Q E w :=
  h

/-- A computation with a temporary directory starts on the disk with the directory, and leaves one without
    it behind. Where there can be no such directory, it does not start. -/
theorem wp.withTemporary {label : String} {f : Path → EStateM CompileError Workshop α}
    (hok : ∀ d, w.disk.createDirectory (w.disk.freeTemporary label) = .ok d →
      wp (f (w.disk.freeTemporary label))
        (fun a w' => Q a { w' with disk := w'.disk.removeAll (w.disk.freeTemporary label) })
        (fun e w' => E e { w' with disk := w'.disk.removeAll (w.disk.freeTemporary label) })
        { w with disk := d })
    (herror : ∀ e, w.disk.createDirectory (w.disk.freeTemporary label) = .error e → E (.io e) w) :
    wp (Workshop.withTemporary label f) Q E w := by
  unfold wp at hok
  unfold wp Workshop.withTemporary Workshop.onDisk Disk.change
  cases hcreate : w.disk.createDirectory (w.disk.freeTemporary label) with
  | error e =>
    simp only [hcreate]
    exact herror e hcreate
  | ok d =>
    have h := hok d hcreate
    simp only [hcreate]
    cases hf : f (w.disk.freeTemporary label) { w with disk := d } with
    | ok a w' => simpa only [hf] using h
    | error e w' => simpa only [hf] using h

theorem wp.withTemporary_of_ok {label : String} {f : Path → EStateM CompileError Workshop α} {d : Disk}
    (hcreate : w.disk.createDirectory (w.disk.freeTemporary label) = .ok d)
    (h : wp (f (w.disk.freeTemporary label))
      (fun a w' => Q a { w' with disk := w'.disk.removeAll (w.disk.freeTemporary label) })
      (fun e w' => E e { w' with disk := w'.disk.removeAll (w.disk.freeTemporary label) })
      { w with disk := d }) : wp (Workshop.withTemporary label f) Q E w := by
  apply wp.withTemporary
  · intro d' hd'
    rw [hcreate] at hd'
    cases hd'
    exact h
  · intro e he
    rw [hcreate] at he
    cases he

end Workshop

/-! ## The disk -/

theorem wp.tryCatch {m : EStateM ε σ α} {handle : ε → EStateM ε σ α} {Q : α → σ → Prop}
    {E : ε → σ → Prop} {s : σ} (h : wp m Q (fun e => wp (handle e) Q E) s) :
    wp (MonadExcept.tryCatch m handle) Q E s := by
  unfold wp at h ⊢
  show match EStateM.tryCatch m handle s with | .ok a s' => Q a s' | .error e s' => E e s'
  unfold EStateM.tryCatch
  cases hm : m s with
  | ok a s' => simpa only [hm] using h
  | error e s' =>
    simp only [hm] at h
    exact h

theorem wp.change {f : Disk → Except IoError Disk} {Q : Unit → Disk → Prop}
    {E : IoError → Disk → Prop} {d : Disk} (hok : ∀ d', f d = .ok d' → Q () d')
    (herror : ∀ e, f d = .error e → E e d) : wp (Disk.change f) Q E d := by
  unfold wp Disk.change
  cases hf : f d with
  | ok d' => exact hok d' hf
  | error e => exact herror e hf

theorem wp.diskLook {f : Disk → Except IoError α} {Q : α → Disk → Prop} {E : IoError → Disk → Prop} {d : Disk}
    (hok : ∀ a, f d = .ok a → Q a d) (herror : ∀ e, f d = .error e → E e d) : wp (Disk.look f) Q E d := by
  unfold wp Disk.look
  cases hf : f d with
  | ok a => exact hok a hf
  | error e => exact herror e hf

section Change

variable {f : Disk → Except IoError Disk} {Q : Unit → Disk → Prop} {E : IoError → Disk → Prop}
  {d : Disk}

theorem wp.change_of_ok {d' : Disk} (hf : f d = .ok d') (h : Q () d') : wp (Disk.change f) Q E d := by
  apply wp.change
  · intro d'' hd''
    rw [hf] at hd''
    cases hd''
    exact h
  · intro e he
    rw [hf] at he
    cases he

theorem wp.change_of_error {e : IoError} (hf : f d = .error e) (h : E e d) :
    wp (Disk.change f) Q E d := by
  apply wp.change
  · intro d' hd'
    rw [hf] at hd'
    cases hd'
  · intro e' he'
    rw [hf] at he'
    cases he'
    exact h

end Change

-- Proofs go through the rules: a computation is not to be run to see what `wp` says of it.
attribute [irreducible] wp

/-! ## Results without a state -/

theorem bind_eq_ok {m : Except ε α} {f : α → Except ε β} {b : β} :
    (m >>= f) = .ok b ↔ ∃ a, m = .ok a ∧ f a = .ok b := by
  cases m with
  | ok a => simp [bind, Except.bind]
  | error e => simp [bind, Except.bind]

theorem bind_eq_error {m : Except ε α} {f : α → Except ε β} {e : ε} :
    (m >>= f) = .error e ↔ m = .error e ∨ ∃ a, m = .ok a ∧ f a = .error e := by
  cases m with
  | ok a => simp [bind, Except.bind]
  | error e' => simp [bind, Except.bind]

theorem map_eq_ok {m : Except ε α} {f : α → β} {b : β} :
    m.map f = .ok b ↔ ∃ a, m = .ok a ∧ f a = b := by
  cases m with
  | ok a => simp [Except.map]
  | error e => simp [Except.map]

/-- A list of computations ends well if each of them does. -/
theorem mapM_eq_ok {f : α → Except ε β} {l : List α} {bs : List β} :
    l.mapM f = .ok bs ↔ List.Forall₂ (fun a b => f a = .ok b) l bs := by
  induction l generalizing bs with
  | nil => cases bs <;> simp [pure, Except.pure]
  | cons a as ih =>
    rw [List.mapM_cons, bind_eq_ok]
    constructor
    · rintro ⟨b, hb, h⟩
      obtain ⟨rest, hrest, heq⟩ := bind_eq_ok.1 h
      cases heq
      exact .cons hb (ih.1 hrest)
    · rintro (_ | ⟨hb, hrest⟩)
      exact ⟨_, hb, bind_eq_ok.2 ⟨_, ih.2 hrest, rfl⟩⟩

theorem exists_mapM_eq_ok {f : α → Except ε β} {l : List α} (h : ∀ a ∈ l, ∃ b, f a = .ok b) :
    ∃ bs, l.mapM f = .ok bs := by
  simp only [mapM_eq_ok]
  induction l with
  | nil => exact ⟨[], .nil⟩
  | cons a as ih =>
    obtain ⟨b, hb⟩ := h a List.mem_cons_self
    obtain ⟨bs, hbs⟩ := ih fun a' ha' => h a' (List.mem_cons_of_mem a ha')
    exact ⟨b :: bs, .cons hb hbs⟩

theorem mapM_congr {f g : α → Except ε β} {l : List α} (h : ∀ a ∈ l, f a = g a) : l.mapM f = l.mapM g := by
  induction l with
  | nil => rfl
  | cons a as ih =>
    rw [List.mapM_cons, List.mapM_cons, h a List.mem_cons_self,
      ih fun a' ha' => h a' (List.mem_cons_of_mem a ha')]

/-- A list of computations fails as one of them does. -/
theorem exists_of_mapM_eq_error {f : α → Except ε β} {l : List α} {e : ε} (h : l.mapM f = .error e) :
    ∃ a ∈ l, f a = .error e := by
  induction l with
  | nil => cases h
  | cons a as ih =>
    rw [List.mapM_cons] at h
    rcases bind_eq_error.1 h with hfirst | ⟨b, -, hrest⟩
    · exact ⟨a, List.mem_cons_self, hfirst⟩
    · rcases bind_eq_error.1 hrest with hmore | ⟨bs, -, hnever⟩
      · obtain ⟨a', ha', hfails⟩ := ih hmore
        exact ⟨a', List.mem_cons_of_mem a ha', hfails⟩
      · cases hnever

/-- What several computations give together is what each of them gives. -/
theorem mem_flatten_of_mapM {f : α → Except ε (List β)} {l : List α} {bss : List (List β)}
    (h : l.mapM f = .ok bss) {b : β} : b ∈ bss.flatten ↔ ∃ a ∈ l, ∃ bs, f a = .ok bs ∧ b ∈ bs := by
  rw [mapM_eq_ok] at h
  induction h with
  | nil => simp
  | @cons a bs as bss ha _ ih => simp [ha, ih]

theorem exists_of_mapM_eq_ok {f : α → Except ε β} {l : List α} {bs : List β} (h : l.mapM f = .ok bs)
    {a : α} (ha : a ∈ l) : ∃ b, f a = .ok b := by
  rw [mapM_eq_ok] at h
  induction h with
  | nil => cases ha
  | cons hb _ ih =>
    rcases List.mem_cons.1 ha with rfl | ha
    · exact ⟨_, hb⟩
    · exact ih ha

theorem exists_of_mem_mapM {f : α → Except ε β} {l : List α} {bs : List β} (h : l.mapM f = .ok bs)
    {b : β} (hb : b ∈ bs) : ∃ a ∈ l, f a = .ok b := by
  rw [mapM_eq_ok] at h
  induction h with
  | nil => cases hb
  | @cons a _ as _ ha _ ih =>
    rcases List.mem_cons.1 hb with rfl | hb
    · exact ⟨a, List.mem_cons_self, ha⟩
    · obtain ⟨a', ha', hb'⟩ := ih hb
      exact ⟨a', List.mem_cons_of_mem a ha', hb'⟩

/-- Computations that give nothing twice and nothing in common give nothing twice together. -/
theorem nodup_flatten_of_mapM {f : α → Except ε (List β)} {l : List α} {bss : List (List β)}
    (h : l.mapM f = .ok bss) (hnodup : ∀ a ∈ l, ∀ bs, f a = .ok bs → bs.Nodup)
    (hdisjoint : l.Pairwise fun a a' => ∀ bs bs', f a = .ok bs → f a' = .ok bs' →
      ∀ b ∈ bs, b ∉ bs') : bss.flatten.Nodup := by
  induction l generalizing bss with
  | nil =>
    cases mapM_eq_ok.1 h
    exact List.nodup_nil
  | cons a as ih =>
    obtain ⟨hfirst, hrest⟩ := List.pairwise_cons.1 hdisjoint
    cases mapM_eq_ok.1 h with
    | @cons _ bs _ rest ha has =>
      have hlater := mapM_eq_ok.2 has
      rw [List.flatten_cons, List.nodup_append]
      refine ⟨hnodup a List.mem_cons_self bs ha,
        ih hlater (fun a' ha' => hnodup a' (List.mem_cons_of_mem a ha')) hrest, ?_⟩
      rintro b hb _ hb' rfl
      obtain ⟨a', ha', bs', hbs', hmem⟩ := (mem_flatten_of_mapM hlater).1 hb'
      exact hfirst a' ha' bs bs' ha hbs' b hb hmem

/-- What holds of the start without any elements, and is carried on by every step to one more of them, holds
    of the result of a fold with all of them. -/
theorem foldlM_invariant {I : List α → β → Prop} {f : β → α → Except ε β} {l : List α} {b b' : β}
    (hstart : I [] b)
    (hstep : ∀ before a after c c', l = before ++ a :: after → I before c → f c a = .ok c' →
      I (before ++ [a]) c')
    (h : l.foldlM f b = .ok b') : I l b' := by
  induction l using List.reverseRecOn generalizing b' with
  | nil =>
    cases h
    exact hstart
  | append_singleton before a ih =>
    rw [List.foldlM_append] at h
    obtain ⟨c, hc, hlast⟩ := bind_eq_ok.1 h
    rw [List.foldlM_cons] at hlast
    obtain ⟨c', hc', hend⟩ := bind_eq_ok.1 hlast
    cases hend
    refine hstep before a [] c _ rfl (ih (fun before' a' after' e e' heq => ?_) hc) hc'
    exact hstep before' a' (after' ++ [a]) e e' (by simp [heq])

/-- What every step of a fold keeps, a fold that ends well keeps. -/
theorem foldlM_keeps {P : β → Prop} {f : β → α → Except ε β}
    (hstep : ∀ b a b', P b → f b a = .ok b' → P b') {l : List α} {b b' : β} (hb : P b)
    (h : l.foldlM f b = .ok b') : P b' :=
  foldlM_invariant (I := fun _ => P) hb (fun _ a _ c c' _ => hstep c a c') h

/-- A fold ends well if every step does, whatever is folded. -/
theorem exists_foldlM_eq_ok {f : β → α → Except ε β} {l : List α} (h : ∀ a ∈ l, ∀ b, ∃ b', f b a = .ok b')
    (b : β) : ∃ b', l.foldlM f b = .ok b' := by
  induction l generalizing b with
  | nil => exact ⟨b, rfl⟩
  | cons a as ih =>
    obtain ⟨c, hc⟩ := h a List.mem_cons_self b
    obtain ⟨b', hb'⟩ := ih (fun a' ha' => h a' (List.mem_cons_of_mem a ha')) c
    refine ⟨b', ?_⟩
    rw [List.foldlM_cons]
    exact bind_eq_ok.2 ⟨c, hc, hb'⟩

/-- A fold fails at its first step that fails, behind steps that end well. -/
theorem foldlM_eq_error {f : β → α → Except ε β} {l : List α} {b : β} {e : ε} :
    l.foldlM f b = .error e ↔ ∃ before a after b', l = before ++ a :: after ∧
      before.foldlM f b = .ok b' ∧ f b' a = .error e := by
  constructor
  · intro h
    induction l generalizing b with
    | nil => cases h
    | cons a as ih =>
      rw [List.foldlM_cons] at h
      rcases bind_eq_error.1 h with hfails | ⟨c, hc, hrest⟩
      · exact ⟨[], a, as, b, rfl, rfl, hfails⟩
      · obtain ⟨before, a', after, b', rfl, hbefore, hfails⟩ := ih hrest
        refine ⟨a :: before, a', after, b', rfl, ?_, hfails⟩
        rw [List.foldlM_cons]
        exact bind_eq_ok.2 ⟨c, hc, hbefore⟩
  · rintro ⟨before, a, after, b', rfl, hbefore, hfails⟩
    rw [List.foldlM_append]
    refine bind_eq_error.2 (.inr ⟨b', hbefore, ?_⟩)
    rw [List.foldlM_cons]
    exact bind_eq_error.2 (.inl hfails)

/-- In a fold that ends well, every step does. -/
theorem exists_step_of_foldlM {f : β → α → Except ε β} {l : List α} {b b' : β}
    (h : l.foldlM f b = .ok b') {a : α} (ha : a ∈ l) : ∃ c c', f c a = .ok c' := by
  induction l generalizing b with
  | nil => cases ha
  | cons a' as ih =>
    rw [List.foldlM_cons] at h
    obtain ⟨c, hc, hrest⟩ := bind_eq_ok.1 h
    rcases List.mem_cons.1 ha with rfl | ha
    · exact ⟨b, c, hc⟩
    · exact ih hrest ha

/-- A fold that ends well ends alike in any order, if any two elements can be swapped. -/
theorem foldlM_perm {f : β → α → Except ε β} {l l' : List α} {b b' : β} (hperm : l.Perm l')
    (hswap : ∀ a ∈ l, ∀ a' ∈ l, a ≠ a' → ∀ c c', (f c a >>= (f · a')) = .ok c' →
      (f c a' >>= (f · a)) = .ok c')
    (h : l.foldlM f b = .ok b') : l'.foldlM f b = .ok b' := by
  induction hperm generalizing b with
  | nil => exact h
  | cons a _ ih =>
    rw [List.foldlM_cons] at h ⊢
    obtain ⟨c, hc, hrest⟩ := bind_eq_ok.1 h
    refine bind_eq_ok.2 ⟨c, hc, ih (fun a₁ h₁ a₂ h₂ => ?_) hrest⟩
    exact hswap a₁ (List.mem_cons_of_mem a h₁) a₂ (List.mem_cons_of_mem a h₂)
  | swap a a' l =>
    simp only [List.foldlM_cons, ← bind_assoc] at h ⊢
    obtain ⟨c, hc, hrest⟩ := bind_eq_ok.1 h
    refine bind_eq_ok.2 ⟨c, ?_, hrest⟩
    by_cases heq : a' = a
    · rw [heq] at hc ⊢
      exact hc
    · exact hswap a' (by simp) a (by simp) heq b c hc
  | trans h₁ _ ih₁ ih₂ =>
    have hmem : ∀ a, a ∈ _ → a ∈ _ := fun a => h₁.mem_iff.2
    exact ih₂ (fun a ha a' ha' => hswap a (hmem a ha) a' (hmem a' ha')) (ih₁ hswap h)

/-! ## Computations that go on from others -/

/-- What `m` makes of a value is what `first` makes of it, and something more that does not depend on it. -/
def GoesOnFrom {γ : Type} (m : α → Except ε γ) (first : α → Except ε β) : Prop :=
  ∃ k : β → Except ε γ, ∀ a, m a = first a >>= k

namespace GoesOnFrom

variable {γ δ : Type} {m : α → Except ε γ} {first : α → Except ε β} {a a' : α} {c : γ} {e : ε}

theorem refl (m : α → Except ε β) : GoesOnFrom m m :=
  ⟨pure, fun _ => (bind_pure _).symm⟩

theorem trans {last : α → Except ε δ} (h : GoesOnFrom last m) (h' : GoesOnFrom m first) :
    GoesOnFrom last first := by
  obtain ⟨k, hk⟩ := h
  obtain ⟨k', hk'⟩ := h'
  exact ⟨fun b => k' b >>= k, fun a => by rw [hk, hk', bind_assoc]⟩

theorem map (h : GoesOnFrom m first) (f : γ → δ) : GoesOnFrom (fun a => (m a).map f) first := by
  have hmap : GoesOnFrom (fun a => (m a).map f) m :=
    ⟨fun c => pure (f c), fun a => map_eq_pure_bind f (m a)⟩
  exact hmap.trans h

theorem comp (h : GoesOnFrom m first) (g : δ → α) : GoesOnFrom (fun d => m (g d)) fun d => first (g d) := by
  obtain ⟨k, hk⟩ := h
  exact ⟨k, fun d => hk (g d)⟩

/-- An element of a list comes first if all the others are computed well. -/
theorem of_mapM {f : α → Except ε β} {before after : List α} {bs : List β}
    (h : (before ++ a :: after).mapM f = .ok bs) :
    GoesOnFrom (fun a' => (before ++ a' :: after).mapM f) f := by
  induction before generalizing bs with
  | nil => exact ⟨fun b => after.mapM f >>= fun rest => pure (b :: rest), fun a' => List.mapM_cons⟩
  | cons first before ih =>
    rw [List.cons_append, List.mapM_cons] at h
    obtain ⟨b, hb, hlater⟩ := bind_eq_ok.1 h
    obtain ⟨rest, hrest, -⟩ := bind_eq_ok.1 hlater
    have hcons : GoesOnFrom (fun a' => (first :: before ++ a' :: after).mapM f)
        fun a' => (before ++ a' :: after).mapM f := by
      refine ⟨fun rest => pure (b :: rest), fun a' => ?_⟩
      simp only [List.cons_append, List.mapM_cons, hb]
      rfl
    exact hcons.trans (ih hrest)

theorem exists_eq_ok (h : GoesOnFrom m first) (hm : m a = .ok c) : ∃ b, first a = .ok b := by
  obtain ⟨k, hk⟩ := h
  obtain ⟨b, hb, -⟩ := bind_eq_ok.1 ((hk a).symm.trans hm)
  exact ⟨b, hb⟩

/-- For two values that go alike at first, all goes alike. -/
theorem eq_ok (h : GoesOnFrom m first) (hm : m a = .ok c)
    (hfirst : ∀ b, first a = .ok b → first a' = .ok b) : m a' = .ok c := by
  obtain ⟨k, hk⟩ := h
  obtain ⟨b, hb, hrest⟩ := bind_eq_ok.1 ((hk a).symm.trans hm)
  rw [hk]
  exact bind_eq_ok.2 ⟨b, hfirst b hb, hrest⟩

theorem eq_error (h : GoesOnFrom m first) (hfirst : first a = .error e) : m a = .error e := by
  obtain ⟨k, hk⟩ := h
  rw [hk]
  exact bind_eq_error.2 (.inl hfirst)

end GoesOnFrom

end Buildwright
