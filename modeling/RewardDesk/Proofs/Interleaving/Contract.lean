import RewardDesk.Proofs.Interleaving.Crew

/-!
# Contracts

How programs are kept apart from each other in proofs. A `Contract` says which calls a program may
make as things stand, and how things can stand after the answer. Whether a program obeys a contract
is a property of that program alone (`Program.Obeys`). A `Ledger` says what holds of the common
surroundings as long as everybody obeys, and has to be kept for single calls only.

`Program.Obeys.run` says what comes of one program that nobody interrupts. `Ledger.run_keeps` puts
the two together: after every schedule the ledger holds, and what is left of each program still
obeys. `Ledger.run_alone` is the same for one program of several.
-/

namespace RewardDesk

/-- The rules that a program follows. What stands is of type `G`. -/
structure Contract (G : Type) where
  /-- May the call be made? -/
  allows : G → Call → Prop
  /-- Can this be the answer to the call, and this what stands afterwards? -/
  leads : G → (c : Call) → c.Answer → G → Prop

variable {G α β : Type}

/-! ## Programs

To obey is defined by recursion on the program, with all answers at once that the contract leaves
open. So no schedule and no other program is mentioned, and a program that is put together from
parts obeys by its parts (`Program.obeys_bind`). -/

namespace Program

variable {K : Contract G} {g : G} {post : α → G → Prop}

/-- All calls of the program are allowed, whatever the answers are, and it ends as `post` says. -/
def Obeys (K : Contract G) : Program α → G → (α → G → Prop) → Prop
  | .done a, g, post => post a g
  | .call c next, g, post => K.allows g c ∧ ∀ a g', K.leads g c a g' → Obeys K (next a) g' post

@[simp] theorem obeys_done (a : α) : Obeys K (.done a) g post ↔ post a g := Iff.rfl

theorem obeys_call (c : Call) (next : c.Answer → Program α) :
    Obeys K (.call c next) g post ↔
      K.allows g c ∧ ∀ a g', K.leads g c a g' → (next a).Obeys K g' post := Iff.rfl

theorem Obeys.mono {p : Program α} {post' : α → G → Prop} (h : p.Obeys K g post)
    (hpost : ∀ a g', post a g' → post' a g') : p.Obeys K g post' := by
  induction p generalizing g with
  | done a => exact hpost a g h
  | call c next ih => exact ⟨h.1, fun a g' hleads => ih a (h.2 a g' hleads)⟩

/-- A program that goes on with another obeys if it leads to where the other one obeys. -/
@[simp] theorem obeys_bind (p : Program α) (f : α → Program β) {post : β → G → Prop} :
    (p >>= f).Obeys K g post ↔ p.Obeys K g fun a g' => (f a).Obeys K g' post := by
  induction p generalizing g with
  | done a => exact Iff.rfl
  | call c next ih =>
    rw [call_bind, obeys_call, obeys_call]
    simp only [ih]

@[simp] theorem obeys_map (f : α → β) (p : Program α) {post : β → G → Prop} :
    (f <$> p).Obeys K g post ↔ p.Obeys K g fun a g' => post (f a) g' := by
  rw [← bind_pure_comp, obeys_bind]
  exact Iff.rfl

theorem obeys_ask (c : Call) {post : c.Answer → G → Prop} :
    (ask c).Obeys K g post ↔ K.allows g c ∧ ∀ a g', K.leads g c a g' → post a g' := Iff.rfl

/-! ### Runs -/

/-- The calls that a program makes in a run. -/
def calls {σ α : Type} (answer : (c : Call) → σ → c.Answer × σ) : Program α → σ → List Call
  | .done _, _ => []
  | .call c next, s => c :: calls answer (next (answer c s).1) (answer c s).2

/-- One program that runs to its end while nobody else makes a call. What every allowed call keeps
holds of its end, if all calls are answered as the contract says. -/
theorem Obeys.run {σ : Type} {answer : (c : Call) → σ → c.Answer × σ}
    (holds : σ → List Call → G → Prop)
    (hcall : ∀ {s made g c}, holds s made g → K.allows g c →
      ∃ g', K.leads g c (answer c s).1 g' ∧ holds (answer c s).2 (made ++ [c]) g')
    {p : Program α} {s : σ} {made : List Call} (h : p.Obeys K g post) (hstart : holds s made g) :
    ∃ g', holds (p.run answer s).2 (made ++ p.calls answer s) g' ∧ post (p.run answer s).1 g' := by
  induction p generalizing s made g with
  | done a =>
    refine ⟨g, ?_, h⟩
    rwa [calls, List.append_nil]
  | call c next ih =>
    obtain ⟨g', hleads, hholds⟩ := hcall hstart h.1
    obtain ⟨last, hend, hpost⟩ := ih _ (h.2 _ g' hleads) hholds
    rw [List.append_assoc] at hend
    exact ⟨last, hend, hpost⟩

/-- What is true of every call that is allowed is true of all calls of a run. -/
theorem Obeys.forall_calls {σ : Type} {answer : (c : Call) → σ → c.Answer × σ} {P : Call → Prop}
    {p : Program α} (h : p.Obeys K g post)
    (hcall : ∀ {g} s c, K.allows g c → P c ∧ ∃ g', K.leads g c (answer c s).1 g') (s : σ) :
    (∀ c ∈ p.calls answer s, P c) ∧ ∃ g', post (p.run answer s).1 g' := by
  obtain ⟨last, hcalls, hpost⟩ := h.run (fun _ made _ => ∀ c ∈ made, P c)
    (fun {s made _ c} hmade hallows => by
      obtain ⟨hc, g', hleads⟩ := hcall s c hallows
      exact ⟨g', hleads, List.forall_mem_append.2 ⟨hmade, List.forall_mem_singleton.2 hc⟩⟩)
    (List.forall_mem_nil P)
  exact ⟨hcalls, last, hpost⟩

end Program

/-! ## Work at the desk

Work at the desk is a program that may fail, and these lemmas lead from work to programs. They are
for the simplifier, which takes a piece of work apart into its calls. -/

/-- The log is open to everybody and changes nothing. -/
class Contract.LogsFreely (K : Contract G) : Prop where
  allows_log : ∀ g entry, K.allows g (.log entry)
  leads_log : ∀ g entry g', K.leads g (.log entry) () g' ↔ g' = g

/-- Logs and counters are open to everybody and change nothing. -/
class Contract.Quiet (K : Contract G) : Prop extends K.LogsFreely where
  allows_measure : ∀ g m, K.allows g (.measure m)
  leads_measure : ∀ g m g', K.leads g (.measure m) () g' ↔ g' = g

namespace Program

variable {K : Contract G} {g : G}

section
variable [K.LogsFreely]

@[simp] theorem obeys_log (entry : Log.Entry) {post : Unit → G → Prop} :
    Obeys (α := Unit) K (ask (.log entry)) g post ↔ post () g := by
  constructor
  · intro h
    exact h.2 () g ((Contract.LogsFreely.leads_log g entry g).2 rfl)
  · intro h
    refine ⟨Contract.LogsFreely.allows_log g entry, fun _ g' hleads => ?_⟩
    rw [(Contract.LogsFreely.leads_log g entry g').1 hleads]
    exact h

@[simp] theorem obeys_note (n : Log.Note) {post : Unit → G → Prop} :
    (note n).Obeys K g post ↔ post () g :=
  obeys_log (.note n)

@[simp] theorem obeys_within (span : Log.Span) (work : Program α) {post : α → G → Prop} :
    (within span work).Obeys K g post ↔ work.Obeys K g post := by
  simp [within]

end

@[simp] theorem obeys_measure [K.Quiet] (m : Measure) {post : Unit → G → Prop} :
    Obeys (α := Unit) K (ask (.measure m)) g post ↔ post () g := by
  constructor
  · intro h
    exact h.2 () g ((Contract.Quiet.leads_measure g m g).2 rfl)
  · intro h
    refine ⟨Contract.Quiet.allows_measure g m, fun _ g' hleads => ?_⟩
    rw [(Contract.Quiet.leads_measure g m g').1 hleads]
    exact h

end Program

namespace Desk

variable {K : Contract G} {g : G}

@[simp] theorem obeys_liftM (outcome : Except DeskError α) {post : Except DeskError α → G → Prop} :
    (liftM outcome : Desk α).run.Obeys K g post ↔ post outcome g := Iff.rfl

@[simp] theorem obeys_lift (p : Program α) {post : Except DeskError α → G → Prop} :
    (ExceptT.lift p : Desk α).run.Obeys K g post ↔ p.Obeys K g fun a g' => post (.ok a) g' :=
  Program.obeys_bind p fun a => Program.done (Except.ok a)

/-- Work that goes on with other work obeys if it fails as `post` says or leads to where the other
work obeys. -/
@[simp] theorem obeys_bind (work : Desk α) (next : α → Desk β)
    {post : Except DeskError β → G → Prop} :
    (work >>= next).run.Obeys K g post ↔ work.run.Obeys K g fun outcome g' =>
      match outcome with
      | .ok a => (next a).run.Obeys K g' post
      | .error error => post (.error error) g' := by
  rw [ExceptT.run_bind, Program.obeys_bind]
  refine iff_of_eq (congrArg (work.run.Obeys K g) ?_)
  funext outcome g'
  cases outcome with
  | ok a => rfl
  | error error => rfl

theorem obeys_ask (c : Call) {post : Except DeskError c.Answer → G → Prop} :
    (ask c).run.Obeys K g post ↔
      K.allows g c ∧ ∀ a g', K.leads g c a g' → post (.ok a) g' := Iff.rfl

@[simp] theorem mapError_ok {ε ε' : Type} (f : ε → ε') (a : α) :
    (Except.ok a).mapError f = .ok a := rfl

theorem obeys_perform (q : Statement) {post : Except DeskError q.Result → G → Prop} :
    (perform q).run.Obeys K g post ↔ K.allows g (.statement q) ∧
      ∀ a g', K.leads g (.statement q) a g' → post (a.mapError .database) g' := by
  rw [perform, obeys_bind, obeys_ask]
  refine and_congr_right fun _ => forall₃_congr fun a g' _ => ?_
  cases a with
  | ok result => exact Iff.rfl
  | error fault => exact Iff.rfl

/-- What was there, or the error, is what comes out. -/
@[simp] theorem obeys_orElse (error : DeskError) (found : Option α)
    {post : Except DeskError α → G → Prop} :
    (orElse error found).run.Obeys K g post ↔ post (found.elim (.error error) .ok) g := by
  cases found with
  | none => exact Iff.rfl
  | some a => exact Iff.rfl

@[simp] theorem obeys_measure [K.Quiet] (m : Measure) {post : Except DeskError Unit → G → Prop} :
    Program.Obeys (α := no_index (Except DeskError Unit)) K
        (ExceptT.run (α := no_index Unit) (ask (.measure m))) g post ↔ post (.ok ()) g :=
  Program.obeys_measure m

variable [K.LogsFreely]

@[simp] theorem obeys_note (n : Log.Note) {post : Except DeskError Unit → G → Prop} :
    (note n).run.Obeys K g post ↔ post (.ok ()) g :=
  Program.obeys_note n

@[simp] theorem obeys_within (span : Log.Span) (work : Desk α)
    {post : Except DeskError α → G → Prop} :
    (within span work).run.Obeys K g post ↔ work.run.Obeys K g post :=
  Program.obeys_within span work.run

end Desk

/-! ## Ledgers

What single programs do is tied to the common surroundings by an account. It is enough to show how
one allowed call carries it on; whose turn it is does not matter, so the same holds after every
schedule. -/

/-- What holds of common surroundings, in which everybody has a contract. An account of type `A`
says how things stand for each program, and grows with the calls. -/
structure Ledger {ι σ : Type} (K : ι → Contract G) (answer : ι → (c : Call) → σ → c.Answer × σ)
    (A : Type) where
  stand : A → ι → G
  grows : A → A → Prop
  holds : σ → List (ι × Call) → A → Prop
  refl : ∀ a, grows a a
  trans : ∀ {a b c}, grows a b → grows b c → grows a c
  /-- An allowed call is answered as the contract says, and only its own program is concerned. -/
  call : ∀ {state history a i c}, holds state history a → (K i).allows (stand a i) c →
    ∃ a', grows a a' ∧ (∀ j, j ≠ i → stand a' j = stand a j) ∧
      (K i).leads (stand a i) c (answer i c state).1 (stand a' i) ∧
      holds (answer i c state).2 (history ++ [(i, c)]) a'

namespace Ledger

variable {ι σ A : Type} {K : ι → Contract G} {answer : ι → (c : Call) → σ → c.Answer × σ}
  {L : Ledger K answer A} {post : ι → α → G → Prop} {a : A}

/-- One program that runs to its end while nobody else makes a call. -/
theorem run_alone {i : ι} {p : Program α} {post : α → G → Prop} {state : σ}
    (history : List (ι × Call)) (hholds : L.holds state history a)
    (hobeys : p.Obeys (K i) (L.stand a i) post) :
    ∃ a' history', L.grows a a' ∧ (∀ j, j ≠ i → L.stand a' j = L.stand a j) ∧
      L.holds (p.run (answer i) state).2 history' a' ∧
      post (p.run (answer i) state).1 (L.stand a' i) := by
  induction p generalizing state history a with
  | done value => exact ⟨a, history, L.refl a, fun _ _ => rfl, hholds, hobeys⟩
  | call c next ih =>
    obtain ⟨b, hgrows, hothers, hleads, hholds'⟩ := L.call hholds hobeys.1
    obtain ⟨a', history', hfurther, hothers', hend, hpost⟩ :=
      ih _ _ hholds' (hobeys.2 _ _ hleads)
    refine ⟨a', history', L.trans hgrows hfurther, fun j hj => ?_, hend, hpost⟩
    rw [hothers' j hj, hothers j hj]

variable [DecidableEq ι] {crew : Crew ι σ α}

/-- The ledger holds, and what is left of each program obeys. -/
def Keeps (L : Ledger K answer A) (post : ι → α → G → Prop) (crew : Crew ι σ α) (a : A) : Prop :=
  L.holds crew.state crew.history a ∧ ∀ i, (crew.left i).Obeys (K i) (L.stand a i) (post i)

/-- One step, whosever turn it is. -/
theorem step_keeps (i : ι) (h : L.Keeps post crew a) :
    ∃ a', L.grows a a' ∧ (∀ j, j ≠ i → L.stand a' j = L.stand a j) ∧
      L.Keeps post (crew.step answer i) a' := by
  obtain ⟨hholds, hobeys⟩ := h
  cases hleft : crew.left i with
  | done value =>
    rw [Crew.step_of_done hleft]
    exact ⟨a, L.refl a, fun _ _ => rfl, hholds, hobeys⟩
  | call c next =>
    rw [Crew.step_of_call hleft]
    have hi := hobeys i
    rw [hleft] at hi
    -- Only the caller stands elsewhere now, so what the others have left still obeys.
    obtain ⟨a', hgrows, hothers, hleads, hholds'⟩ := L.call hholds hi.1
    refine ⟨a', hgrows, hothers, hholds', fun j => ?_⟩
    by_cases hj : j = i
    · subst hj
      simpa using hi.2 _ _ hleads
    · show (Function.update crew.left i _ j).Obeys (K j) _ _
      rw [Function.update_of_ne hj, hothers j hj]
      exact hobeys j

/-- A moment of a run: the calls of a schedule were made, and nothing has changed for programs whose
turn has not come. -/
def KeepsAt (L : Ledger K answer A) (post : ι → α → G → Prop) (crew : Crew ι σ α) (a : A)
    (schedule : List ι) (b : A) : Prop :=
  (∀ j, j ∉ schedule → L.stand b j = L.stand a j) ∧ L.Keeps post (crew.run answer schedule) b

/-- A whole run. There is one account for its end, and for each earlier moment one from which that
grew. -/
theorem run_keeps (schedule : List ι) (h : L.Keeps post crew a) :
    ∃ last, L.grows a last ∧ L.KeepsAt post crew a schedule last ∧
      ∀ l r, schedule = l ++ r → ∃ b, L.grows b last ∧ L.KeepsAt post crew a l b := by
  -- From the front: the account of the first step is the start of the account for all others.
  induction schedule generalizing crew a with
  | nil =>
    refine ⟨a, L.refl a, ⟨fun _ _ => rfl, h⟩, fun l r hsplit => ⟨a, L.refl a, fun _ _ => rfl, ?_⟩⟩
    obtain ⟨rfl, -⟩ := List.append_eq_nil_iff.1 hsplit.symm
    exact h
  | cons i schedule ih =>
    obtain ⟨a', hgrows, hothers, hkeeps⟩ := step_keeps i h
    obtain ⟨last, hfurther, hlast, hsplits⟩ := ih hkeeps
    have hcons : ∀ {l b}, L.KeepsAt post (crew.step answer i) a' l b →
        L.KeepsAt post crew a (i :: l) b := by
      rintro l b ⟨hunmoved, hkept⟩
      refine ⟨fun j hj => ?_, hkept⟩
      rw [hunmoved j fun hmem => hj (List.mem_cons_of_mem i hmem),
        hothers j fun heq => hj (heq ▸ List.mem_cons_self)]
    refine ⟨last, L.trans hgrows hfurther, hcons hlast, fun l r hsplit => ?_⟩
    cases l with
    | nil => exact ⟨a, L.trans hgrows hfurther, fun _ _ => rfl, h⟩
    | cons j l =>
      obtain ⟨rfl, rfl⟩ := List.cons.inj hsplit
      obtain ⟨b, hb, hkept⟩ := hsplits l r rfl
      exact ⟨b, hb, hcons hkept⟩

end Ledger
end RewardDesk
