import RewardDesk.Proofs.History
import RewardDesk.Proofs.Interleaving.Solo
import RewardDesk.Proofs.Links.Book
import RewardDesk.Proofs.Session.Turns
import RewardDesk.Proofs.Session.Watching

/-!
# Links as pairs

What the commands on links do, told without the store: an event and a reward are linked when they
were linked by a command and not parted by one since (`Linked`). After every turn the book of links
holds exactly the linked pairs (`Paired`), and so `Turn.links_are_pairs` says of any texts in the
payloads what the commands answer to them.
-/

namespace RewardDesk

/-! ## Payloads

A payload is told by the fields that it carries. In which JSON they came does not matter any more
then. -/

/-- Are these the fields of the payload, whatever their lengths? -/
def Payload.Carries {α : Type} (p : Payload α) (j : Json) (a : α) : Prop :=
  p.codec.ofValue (if j matches .null then .object [] else j) = .ok a

namespace Payload

variable {α : Type} {p : Payload α} {j : Json} {a b : α}

theorem Carries.unique (h : p.Carries j a) (h' : p.Carries j b) : a = b :=
  Except.ok.inj (h.symm.trans h')

theorem read_of_carries (h : p.Carries j a) :
    p.read j = if (p.problems a).isEmpty then .ok a else .error (.fields (p.problems a)) := by
  unfold Payload.read
  split
  · rename_i fault hfault
    exact absurd (h.symm.trans hfault) nofun
  · rename_i b hb
    rw [h.unique hb]

theorem carries_of_read (h : p.read j = .ok a) : p.Carries j a := by
  unfold Payload.read at h
  split at h
  · exact absurd h nofun
  · rename_i b hb
    split at h
    · rwa [← Except.ok.inj h]
    · exact absurd h nofun

end Payload

theorem notEmpty_eq_nil {field message text : String} :
    notEmpty field message text = [] ↔ text ≠ "" := by
  simp [notEmpty]

/-! ## What was linked

Whether two things are linked is a matter of history: it is decided by the last command that
succeeded in linking or parting them, and so changes with each turn in the simplest way
(`linked_snoc`). -/

/-- Has a command of this name succeeded with these fields? -/
def Turn.Note.Succeeded {α : Type} (name : String) (payload : Payload α) (a : α) : Note → Prop
  | .served (.command name' j) (.ok _) _ _ => name' = name ∧ payload.Carries j a
  | _ => False

/-- Were the event and the reward linked and not parted since? -/
def Linked (notes : List Turn.Note) (eventId rewardId : String) : Prop :=
  ∃ earlier note later, notes = earlier ++ note :: later ∧
    note.Succeeded "add_reward_to_event" LinkReward.payload ⟨eventId, rewardId⟩ ∧
    ∀ n ∈ later, ¬ n.Succeeded "remove_reward_from_event" LinkReward.payload ⟨eventId, rewardId⟩

theorem not_linked_nil (e r : String) : ¬ Linked [] e r := History.not_since_nil

theorem linked_snoc {notes : List Turn.Note} {note : Turn.Note} {e r : String} :
    Linked (notes ++ [note]) e r ↔
      note.Succeeded "add_reward_to_event" LinkReward.payload ⟨e, r⟩ ∨
        (Linked notes e r ∧
          ¬ note.Succeeded "remove_reward_from_event" LinkReward.payload ⟨e, r⟩) :=
  History.since_concat

/-! ## What errands do to the book

A deed on the docket of an errand tells whether the errand has linked or parted a pair. A review by
its status has done neither, and of the commands just the two do that are there for it. -/

namespace Errand.Did

variable {e : Errand} {answer : Json} {deed : Option Deed} {told : List StatusChange}
  {before after : Store} {p : LinkReward}

/-- The commands that link are those that add a link. -/
theorem added (h : e.Did answer deed told) :
    (Turn.Note.served e (.ok answer) before after).Succeeded "add_reward_to_event"
      LinkReward.payload p ↔ ∃ time, deed = some (.linkAdded ⟨p.eventId, p.rewardId, time⟩) := by
  cases e with
  | review id status =>
    obtain ⟨r, -, rfl, -⟩ := h
    simp [Turn.Note.Succeeded]
  | command name j =>
    simp only [Turn.Note.Succeeded]
    cases h with
    | addLink time hread =>
      have hcarries := Payload.carries_of_read hread
      constructor
      · rintro ⟨-, hp⟩
        obtain rfl := hp.unique hcarries
        exact ⟨time, rfl⟩
      · rintro ⟨time', hlink⟩
        obtain ⟨e, r⟩ := p
        obtain ⟨rfl, rfl, -⟩ := Link.mk.inj (Deed.linkAdded.inj (Option.some.inj hlink))
        exact ⟨rfl, hcarries⟩
    | read _ hreads =>
      constructor
      · rintro ⟨rfl, -⟩
        exact absurd hreads (by decide)
      · rintro ⟨_, hlink⟩
        exact absurd hlink nofun
    | _ => simp

theorem removed (h : e.Did answer deed told) :
    (Turn.Note.served e (.ok answer) before after).Succeeded "remove_reward_from_event"
      LinkReward.payload p ↔ deed = some (.linkRemoved p.eventId p.rewardId) := by
  cases e with
  | review id status =>
    obtain ⟨r, -, rfl, -⟩ := h
    simp [Turn.Note.Succeeded]
  | command name j =>
    simp only [Turn.Note.Succeeded]
    cases h with
    | removeLink hread =>
      have hcarries := Payload.carries_of_read hread
      constructor
      · rintro ⟨-, hp⟩
        obtain rfl := hp.unique hcarries
        rfl
      · intro hlink
        obtain ⟨e, r⟩ := p
        obtain ⟨rfl, rfl⟩ := Deed.linkRemoved.inj (Option.some.inj hlink)
        exact ⟨rfl, hcarries⟩
    | read _ hreads =>
      constructor
      · rintro ⟨rfl, -⟩
        exact absurd hreads (by decide)
      · exact nofun
    | _ => simp

end Errand.Did

/-- What a deed does to the pairs of the book. -/
theorem Deed.Leads.has_iff {deed : Option Deed} {s s' : Store} (h : Leads deed s s')
    (hplain : s.links.Plain)
    (hfree : ∀ k l, s'.links.links.get? k = some l →
      Text.ZeroFree l.eventId ∧ Text.ZeroFree l.rewardId) :
    s'.links.Plain ∧ ∀ e r, s'.links.Has e r ↔ (∃ time, deed = some (.linkAdded ⟨e, r, time⟩)) ∨
      (s.links.Has e r ∧ deed ≠ some (.linkRemoved e r)) := by
  cases deed with
  | none =>
    obtain rfl : s' = s := h
    exact ⟨hplain, by simp⟩
  | some d =>
    obtain ⟨hfits, rfl⟩ := h
    cases d with
    | linkAdded l =>
      obtain ⟨he, hr⟩ := hfree (LinkBook.key l.eventId l.rewardId) l (by simp [apply])
      refine ⟨hplain.set he hr, fun e r => ?_⟩
      rw [apply, hplain.has_set he hr]
      obtain ⟨e', r', time⟩ := l
      simp [eq_comm]
    | linkRemoved e' r' =>
      obtain ⟨l, hl⟩ := hfits
      have hhas : s.links.Has e' r' := hplain.has_iff.2 ⟨l, hl⟩
      refine ⟨hplain.erase _, fun e r => ?_⟩
      rw [apply, hplain.has_erase hhas]
      simp [eq_comm]
    | _ => exact ⟨hplain, by simp [apply]⟩

/-! ## After every turn

The book of links joins two ids with a zero character for its key. No id that the desk has drawn has
one, so a key stands for one pair (`Rested.zeroFree`), whatever texts were tried besides. -/

/-- Nothing is under way, and the book holds the pairs that were linked. -/
structure Paired (supply : Supply) (notes : List Turn.Note) (w : World Store) : Prop where
  rested : Rested supply w
  plain : w.storage.links.Plain
  linked : ∀ e r, w.storage.links.Has e r ↔ Linked notes e r

/-- What is stored has an id that was drawn. -/
theorem Rested.zeroFree {supply : Supply} {w : World Store} (h : Rested supply w)
    (hzero : ∀ n, Text.ZeroFree (supply.id n)) :
    ∀ k l, w.storage.links.links.get? k = some l →
      Text.ZeroFree l.eventId ∧ Text.ZeroFree l.rewardId := by
  have hnames : ∀ {id}, w.storage.Names id → Text.ZeroFree id := by
    intro id hid
    obtain ⟨n, -, rfl⟩ := h.inOrder.reserved.taken_drawn id hid
    exact hzero n
  intro k l hl
  obtain ⟨⟨e, he, -⟩, ⟨r, hr, -⟩⟩ := h.wellFormed.links k l hl
  exact ⟨hnames (.inl ⟨e, he⟩), hnames (.inr (.inl ⟨r, hr⟩))⟩

namespace Paired

variable {supply : Supply} {notes : List Turn.Note} {w : World Store}

theorem start (supply : Supply) (channel : Channel StatusChange) :
    Paired supply [] { storage := .empty, channel } where
  rested := .start supply channel
  plain := nofun
  linked e r := by
    constructor
    · rintro ⟨k, l, hget, -⟩
      exact absurd hget nofun
    · exact fun h => absurd h (not_linked_nil e r)

variable (hids : Function.Injective supply.id) (hzero : ∀ n, Text.ZeroFree (supply.id n))
include hids hzero

theorem errand (h : Paired supply notes w) (e : Errand) :
    Paired supply (notes ++ [(Turn.take supply w (.errand e)).1])
      (Turn.take supply w (.errand e)).2 := by
  have hrested := h.rested.errand hids e
  obtain ⟨g, ⟨-, heffected⟩, hends⟩ := Errand.exists_effected hids h.rested.inOrder e
  obtain ⟨hplain, hhas⟩ := heffected.leads.has_iff h.plain (hrested.zeroFree hzero)
  refine ⟨hrested, hplain, fun eventId rewardId => ?_⟩
  show (World.run .memory supply e.program w).2.storage.links.Has eventId rewardId ↔
    Linked (notes ++ [.served e (World.run .memory supply e.program w).1 _ _]) eventId rewardId
  rw [linked_snoc, hhas, h.linked]
  cases houtcome : (World.run .memory supply e.program w).1 with
  | error error =>
    rw [houtcome] at hends
    have hnone : g.deed = none := hends.1
    rw [hnone]
    simp [Turn.Note.Succeeded]
  | ok answer =>
    rw [houtcome] at hends
    have hdid : e.Did answer g.deed g.told := hends
    rw [hdid.added, hdid.removed]

theorem take (h : Paired supply notes w) (t : Turn) :
    Paired supply (notes ++ [(t.take supply w).1]) (t.take supply w).2 := by
  cases t with
  | errand e => exact h.errand hids hzero e
  | _ =>
    refine ⟨h.rested.channel _, h.plain, fun e r => (h.linked e r).trans ?_⟩
    rw [linked_snoc]
    simp [Turn.take, Turn.Note.Succeeded]

end Paired

/-! ## What commands answer

Between two turns nobody else is at work, so a command can be followed on its own from the store
that it finds. Fields that are empty are refused before that, without a single statement
(`Refuses`). -/

/-- What comes of adding a link, by what was found of its event, its reward and itself. -/
def LinkReward.addition (p : LinkReward) :
    Option Event → Option Reward → Option Link → Except DeskError Unit
  | none, _, _ => .error (.eventNotFound p.eventId)
  | some _, none, _ => .error (.rewardNotFound p.rewardId)
  | some _, some _, some _ => .error (.duplicateLink p.eventId p.rewardId)
  | some _, some _, none => .ok ()

namespace solo

variable {s : Store}

theorem obeys_addLink (p : LinkReward) : (Links.add p).run.Obeys solo s fun outcome _ =>
    outcome = p.addition (s.events.get? p.eventId) (s.rewards.get? p.rewardId)
      (s.links.links.get? (LinkBook.key p.eventId p.rewardId)) := by
  obtain ⟨link, hlink⟩ : ∃ link, s.links.links.get? (LinkBook.key p.eventId p.rewardId) = link :=
    ⟨_, rfl⟩
  rw [hlink]
  simp only [Links.add, Desk.obeys_within, Desk.obeys_bind, obeys_getEvent, obeys_getReward,
    obeys_clock, obeys_perform]
  cases s.events.get? p.eventId with
  | none => rfl
  | some event =>
    cases s.rewards.get? p.rewardId with
    | none => rfl
    | some reward =>
      intro now
      simp only [Store.execute, LinkBook.add, Table.setIfAbsent, Table.contains, hlink]
      cases link with
      | none => simp [LinkReward.addition]
      | some l => simp [LinkReward.addition]

theorem obeys_removeLink (p : LinkReward) : (Links.remove p).run.Obeys solo s fun outcome _ =>
    outcome = (s.links.links.get? (LinkBook.key p.eventId p.rewardId)).elim
      (.error (.linkNotFound p.eventId p.rewardId)) fun _ => .ok () := by
  obtain ⟨link, hlink⟩ : ∃ link, s.links.links.get? (LinkBook.key p.eventId p.rewardId) = link :=
    ⟨_, rfl⟩
  rw [hlink]
  simp only [Links.remove, Desk.obeys_within, Desk.obeys_bind, obeys_perform, Store.execute,
    LinkBook.remove, Table.take, hlink]
  cases link with
  | none => simp
  | some l => simp

theorem obeys_linkedRewards (id : String) : (Links.rewards id).run.Obeys solo s fun outcome _ =>
    outcome = (s.events.get? id).elim (.error (.eventNotFound id)) fun _ =>
      .ok (s.rewardsById (s.links.rewardIds id)) := by
  simp only [Links.rewards, Desk.obeys_bind, obeys_getEvent, obeys_perform, Store.execute]
  cases s.events.get? id with
  | none => rfl
  | some event => rfl

end solo

namespace World

variable {α β : Type} {name : String} {payload : Payload α} {work : α → Desk β} {write : β → Json}
  {j : Json} {a : α}

/-- A command that is dispatched now and runs to its end: its result, and what is there then. -/
def served (supply : Supply) (w : World Store) (name : String) (payload : Json) :
    Except DeskError Json × World Store :=
  run .memory supply (Router.standard.dispatch name payload) w

/-- A payload that is acceptable is worked on. -/
theorem served_of_work (supply : Supply) (w : World Store) {outcome : Except DeskError β}
    (hget : Router.standard.get? name = some (.of name payload work write))
    (hcarries : payload.Carries j a) (hfine : payload.problems a = [])
    (hwork : (work a).run.Obeys solo w.storage fun result _ => result = outcome) :
    (w.served supply name j).1 = outcome.map write := by
  have hread : payload.read j = .ok a := by
    rw [Payload.read_of_carries hcarries, hfine]
    rfl
  have hobeys : (Router.standard.dispatch name j).Obeys solo w.storage fun result _ =>
      result = outcome.map write := by
    rw [solo.obeys_dispatch hget, hread]
    refine hwork.mono fun result _ hresult => ?_
    rw [hresult]
  exact solo.run hobeys

/-- A command is refused for texts of its payload. It has asked the storage for nothing then, and
has left it as it was. -/
structure Refuses (supply : Supply) (w : World Store) (name : String) (j : Json)
    (problems : List FieldProblem) : Prop where
  outcome : (w.served supply name j).1 = .error (.validation (.fields problems))
  storage : (w.served supply name j).2.storage = w.storage
  unasked : ∀ q, .statement q ∉
    (Router.standard.dispatch name j).calls (World.answer .memory supply) w

/-- A payload with texts of wrong lengths is refused. -/
theorem refuses_of_problems (supply : Supply) (w : World Store)
    (hget : Router.standard.get? name = some (.of name payload work write))
    (hcarries : payload.Carries j a) (hproblems : payload.problems a ≠ []) :
    w.Refuses supply name j (payload.problems a) := by
  have hread : payload.read j = .error (.fields (payload.problems a)) := by
    rw [Payload.read_of_carries hcarries, if_neg (by simpa using hproblems)]
  have hobeys : (Router.standard.dispatch name j).Obeys (watching supply) ⟨w, []⟩ fun result g =>
      result = .error (.validation (.fields (payload.problems a))) ∧
        g.world.storage = w.storage ∧ g.made = [] := by
    rw [Router.obeys_dispatch_known hget, Handler.obeys_iff, hread]
    exact (watching.obeys_ask _).2 ⟨rfl, rfl, rfl⟩
  obtain ⟨g, ⟨houtcome, hstorage, hmade⟩, halike, hcalls⟩ := watching.run hobeys
  refine ⟨houtcome, halike.storage.symm.trans hstorage, fun q hq => ?_⟩
  have hnone : q ∈ g.made := hcalls ▸ List.mem_filterMap.2 ⟨.statement q, hq, rfl⟩
  rw [hmade] at hnone
  exact absurd hnone List.not_mem_nil

end World

namespace Router

theorem get?_addLink : standard.get? "add_reward_to_event" =
    some (.of "add_reward_to_event" LinkReward.payload Links.add fun _ => .null) := by rfl

theorem get?_removeLink : standard.get? "remove_reward_from_event" =
    some (.of "remove_reward_from_event" LinkReward.payload Links.remove fun _ => .null) := by rfl

theorem get?_linkedRewards : standard.get? "get_rewards_by_event_id" =
    some (.of "get_rewards_by_event_id" ByEvent.payload (fun p => Links.rewards p.eventId)
      Reward.codec.list.encode) := by rfl

end Router

/-! ## The commands on links

With the book known as a set of pairs, each command is told by conditions on events, rewards and
links, in the order in which it looks for them. The first one that fails names the error. -/

/-- What the commands on links answer to payloads with any texts, and that the book holds the linked
pairs. -/
structure Links.ArePairs (supply : Supply) (w : World Store) (linked : String → String → Prop) :
    Prop where
  stored : ∀ e r, w.storage.links.Has e r ↔ linked e r
  add : ∀ j e r, LinkReward.payload.Carries j ⟨e, r⟩ → e ≠ "" → r ≠ "" →
    let outcome := (w.served supply "add_reward_to_event" j).1
    (¬ w.storage.HasEvent e → outcome = .error (.eventNotFound e)) ∧
    (w.storage.HasEvent e → ¬ w.storage.HasReward r → outcome = .error (.rewardNotFound r)) ∧
    (w.storage.HasEvent e → w.storage.HasReward r → linked e r →
      outcome = .error (.duplicateLink e r)) ∧
    (w.storage.HasEvent e → w.storage.HasReward r → ¬ linked e r → outcome = .ok .null)
  remove : ∀ j e r, LinkReward.payload.Carries j ⟨e, r⟩ → e ≠ "" → r ≠ "" →
    let served := w.served supply "remove_reward_from_event" j
    (¬ linked e r → served.1 = .error (.linkNotFound e r)) ∧
    (linked e r → served.1 = .ok .null ∧
      ∀ e' r', served.2.storage.links.Has e' r' ↔ linked e' r' ∧ ¬(e' = e ∧ r' = r))
  rewards : ∀ j e, ByEvent.payload.Carries j ⟨e⟩ → e ≠ "" →
    let outcome := (w.served supply "get_rewards_by_event_id" j).1
    (¬ w.storage.HasEvent e → outcome = .error (.eventNotFound e)) ∧
    (w.storage.HasEvent e → ∃ rewards : List Reward,
      outcome = .ok (Reward.codec.list.encode rewards) ∧
      rewards.Pairwise (fun a b => a.id < b.id) ∧
      (∀ a ∈ rewards, w.storage.rewards.get? a.id = some a) ∧
      ∀ r, (∃ a ∈ rewards, a.id = r) ↔ linked e r)
  /-- A payload without an event or a reward is refused before anything is looked up. -/
  refused : ∀ name ∈ ["add_reward_to_event", "remove_reward_from_event"], ∀ j e r,
    LinkReward.payload.Carries j ⟨e, r⟩ → e = "" ∨ r = "" →
    w.Refuses supply name j (LinkReward.payload.problems ⟨e, r⟩)
  refusedRewards : ∀ j, ByEvent.payload.Carries j ⟨""⟩ →
    w.Refuses supply "get_rewards_by_event_id" j (ByEvent.payload.problems ⟨""⟩)

theorem LinkReward.problems_eq_nil {e r : String} :
    LinkReward.payload.problems ⟨e, r⟩ = [] ↔ e ≠ "" ∧ r ≠ "" := by
  rw [LinkReward.payload, List.append_eq_nil_iff, notEmpty_eq_nil, notEmpty_eq_nil]

theorem ByEvent.problems_eq_nil {e : String} : ByEvent.payload.problems ⟨e⟩ = [] ↔ e ≠ "" :=
  notEmpty_eq_nil

namespace Paired

variable {supply : Supply} {notes : List Turn.Note} {w : World Store} {j : Json} {e r : String}

theorem hasEvent_iff (h : Paired supply notes w) :
    w.storage.HasEvent e ↔ ∃ event, w.storage.events.get? e = some event :=
  ⟨fun ⟨event, hevent, _⟩ => ⟨event, hevent⟩,
    fun ⟨event, hevent⟩ => ⟨event, hevent, h.rested.inOrder.events e event hevent⟩⟩

theorem hasReward_iff (h : Paired supply notes w) :
    w.storage.HasReward r ↔ ∃ reward, w.storage.rewards.get? r = some reward :=
  ⟨fun ⟨reward, hreward, _⟩ => ⟨reward, hreward⟩,
    fun ⟨reward, hreward⟩ => ⟨reward, hreward, h.rested.inOrder.filed.rewards r reward hreward⟩⟩

theorem linked_iff (h : Paired supply notes w) :
    Linked notes e r ↔ ∃ l, w.storage.links.links.get? (LinkBook.key e r) = some l := by
  rw [← h.linked, h.plain.has_iff]

theorem served_add (h : Paired supply notes w) (hj : LinkReward.payload.Carries j ⟨e, r⟩)
    (he : e ≠ "") (hr : r ≠ "") :
    let outcome := (w.served supply "add_reward_to_event" j).1
    (¬ w.storage.HasEvent e → outcome = .error (.eventNotFound e)) ∧
    (w.storage.HasEvent e → ¬ w.storage.HasReward r → outcome = .error (.rewardNotFound r)) ∧
    (w.storage.HasEvent e → w.storage.HasReward r → Linked notes e r →
      outcome = .error (.duplicateLink e r)) ∧
    (w.storage.HasEvent e → w.storage.HasReward r → ¬ Linked notes e r → outcome = .ok .null) := by
  intro outcome
  have hserved : outcome = _ := World.served_of_work supply w Router.get?_addLink hj
    (LinkReward.problems_eq_nil.2 ⟨he, hr⟩) (solo.obeys_addLink ⟨e, r⟩)
  rw [hserved, h.hasEvent_iff, h.hasReward_iff, h.linked_iff]
  cases w.storage.events.get? e with
  | none => simp [LinkReward.addition, Except.map]
  | some event =>
    cases w.storage.rewards.get? r with
    | none => simp [LinkReward.addition, Except.map]
    | some reward =>
      cases w.storage.links.links.get? (LinkBook.key e r) with
      | none => simp [LinkReward.addition, Except.map]
      | some l => simp [LinkReward.addition, Except.map]

theorem served_remove (hids : Function.Injective supply.id)
    (hzero : ∀ n, Text.ZeroFree (supply.id n)) (h : Paired supply notes w)
    (hj : LinkReward.payload.Carries j ⟨e, r⟩) (he : e ≠ "") (hr : r ≠ "") :
    let served := w.served supply "remove_reward_from_event" j
    (¬ Linked notes e r → served.1 = .error (.linkNotFound e r)) ∧
    (Linked notes e r → served.1 = .ok .null ∧
      ∀ e' r', served.2.storage.links.Has e' r' ↔ Linked notes e' r' ∧ ¬(e' = e ∧ r' = r)) := by
  intro served
  have hserved : served.1 = _ := World.served_of_work supply w Router.get?_removeLink hj
    (LinkReward.problems_eq_nil.2 ⟨he, hr⟩) (solo.obeys_removeLink ⟨e, r⟩)
  refine ⟨fun hnot => ?_, fun hlinked => ?_⟩
  · rw [h.linked_iff] at hnot
    have hnone : w.storage.links.links.get? (LinkBook.key e r) = none := by
      simpa [Option.eq_none_iff_forall_ne_some] using hnot
    rw [hserved, hnone]
    rfl
  · obtain ⟨l, hl⟩ := h.linked_iff.1 hlinked
    have hok : served.1 = .ok .null := by
      rw [hserved, hl]
      rfl
    refine ⟨hok, fun e' r' => ?_⟩
    have hnext := (h.errand hids hzero (.command "remove_reward_from_event" j)).linked e' r'
    have hnote : (Turn.take supply w (.errand (.command "remove_reward_from_event" j))).1 =
        .served (.command "remove_reward_from_event" j) (.ok .null) w.storage served.2.storage := by
      rw [← hok]
      rfl
    rw [hnote, linked_snoc] at hnext
    refine hnext.trans ?_
    have hsame : LinkReward.payload.Carries j ⟨e', r'⟩ ↔ e' = e ∧ r' = r :=
      ⟨fun hcarries => LinkReward.mk.inj (hcarries.unique hj), fun ⟨he, hr⟩ => he ▸ hr ▸ hj⟩
    simp [Turn.Note.Succeeded, hsame]

theorem served_rewards (h : Paired supply notes w) (hj : ByEvent.payload.Carries j ⟨e⟩)
    (he : e ≠ "") :
    let outcome := (w.served supply "get_rewards_by_event_id" j).1
    (¬ w.storage.HasEvent e → outcome = .error (.eventNotFound e)) ∧
    (w.storage.HasEvent e → ∃ rewards : List Reward,
      outcome = .ok (Reward.codec.list.encode rewards) ∧
      rewards.Pairwise (fun a b => a.id < b.id) ∧
      (∀ a ∈ rewards, w.storage.rewards.get? a.id = some a) ∧
      ∀ r, (∃ a ∈ rewards, a.id = r) ↔ Linked notes e r) := by
  intro outcome
  have hserved : outcome = _ := World.served_of_work supply w Router.get?_linkedRewards hj
    (ByEvent.problems_eq_nil.2 he) (solo.obeys_linkedRewards e)
  rw [hserved, h.hasEvent_iff]
  cases w.storage.events.get? e with
  | none => simp [Except.map]
  | some event =>
    have hfiled := h.rested.inOrder.filed.rewards
    refine ⟨fun hnone => absurd ⟨event, rfl⟩ hnone, fun _ => ⟨_, rfl,
      (w.storage.once_rewardsById _).ascending, fun a ha => ?_, fun r => ?_⟩⟩
    · exact ((Store.mem_rewardsById hfiled).1 ha).2
    · rw [← h.linked]
      constructor
      · rintro ⟨a, ha, rfl⟩
        exact LinkBook.mem_rewardIds.1 ((Store.mem_rewardsById hfiled).1 ha).1
      -- The reward of every link is there, so that none is left out.
      · intro hhas
        obtain ⟨k, l, hl, rfl, rfl⟩ := hhas
        obtain ⟨-, a, ha, hid⟩ := h.rested.wellFormed.links k l hl
        refine ⟨a, (Store.mem_rewardsById hfiled).2 ⟨?_, hid ▸ ha⟩, hid⟩
        rw [hid]
        exact LinkBook.mem_rewardIds.2 ⟨k, l, hl, rfl, rfl⟩

end Paired

/-- Whatever has happened so far, one turn after the other, the links are a set of pairs of texts: a
pair is in it when it was linked by a command and not taken apart by one with these very texts
since. With payloads that have both texts, and neither of them empty,

* a pair is added if its event and its reward are there and it is not in the set, and otherwise the
  first of the three that fails is what the command says;
* a pair is removed if it is in the set, and no other goes with it;
* the rewards of an event that is there are all those of its pairs, each once and by ascending ids.

An empty text is refused before anything is looked up. -/
theorem Turn.links_are_pairs {supply : Supply} (hids : Function.Injective supply.id)
    (hzero : ∀ n, Text.ZeroFree (supply.id n)) (channel : Channel StatusChange)
    (turns : List Turn) :
    let played := play supply turns { storage := .empty, channel }
    Links.ArePairs supply played.2 (Linked played.1) := by
  intro played
  have h : Paired supply played.1 played.2 := Turn.play_holds (Paired supply)
    (fun _ _ t hpaired => hpaired.take hids hzero t) turns (Paired.start supply channel)
  constructor
  · exact h.linked
  · exact fun j e r hj he hr => h.served_add hj he hr
  · exact fun j e r hj he hr => h.served_remove hids hzero hj he hr
  · exact fun j e hj he => h.served_rewards hj he
  · intro name hname j e r hj hempty
    have hproblems : LinkReward.payload.problems ⟨e, r⟩ ≠ [] := by
      rw [Ne, LinkReward.problems_eq_nil]
      tauto
    simp only [List.mem_cons, List.not_mem_nil, or_false] at hname
    rcases hname with rfl | rfl
    · exact World.refuses_of_problems supply played.2 Router.get?_addLink hj hproblems
    · exact World.refuses_of_problems supply played.2 Router.get?_removeLink hj hproblems
  · intro j hj
    exact World.refuses_of_problems supply played.2 Router.get?_linkedRewards hj (by decide)

/-- The fields of a payload that names them. -/
theorem LinkReward.carries_object (e r : String) :
    LinkReward.payload.Carries (.object [("eventId", .string e), ("rewardId", .string r)]) ⟨e, r⟩ :=
  rfl

/-- An event and a reward that are linked, and an attempt to part them with a zero character too
many. -/
def Turn.fair : List Turn := [
  .errand (.opening "E"),
  .errand (.command "create_reward" (.object [("name", .string "R"), ("type", .string "BADGE"),
    ("rewardData", .object [("badgeId", .string "b")])])),
  .errand (.command "add_reward_to_event"
    (.object [("eventId", .string "x"), ("rewardId", .string "xx")])),
  .errand (.command "remove_reward_from_event"
    (.object [("eventId", .string "x\x00"), ("rewardId", .string "xx")]))]

/-- The attempt fails, and the two are still linked. -/
theorem Turn.links_are_pairs_of_fair :
    Function.Injective Supply.growing.id ∧ (∀ n, Text.ZeroFree (Supply.growing.id n)) ∧
      let played := play .growing fair { storage := .empty, channel := .ofCapacity 1 }
      Links.ArePairs .growing played.2 (Linked played.1) ∧ Linked played.1 "x" "xx" := by
  have hzero : ∀ n, Text.ZeroFree (Supply.growing.id n) := by
    intro n
    simp [Text.ZeroFree, Supply.growing]
  have hpairs := links_are_pairs Supply.growing_injective hzero (.ofCapacity 1) fair
  refine ⟨Supply.growing_injective, hzero, hpairs, (hpairs.stored "x" "xx").1 ?_⟩
  exact ⟨LinkBook.key "x" "xx", ⟨"x", "xx", ⟨0, 0⟩⟩, by decide +kernel, rfl, rfl⟩

/-- Nothing is linked at first. To take apart an empty event and a reward is refused all the same
for the empty text, and not because the two are not linked. -/
theorem Turn.remove_refused_of_empty :
    let w : World Store := { storage := .empty, channel := .ofCapacity 1 }
    let payload := Json.object [("eventId", .string ""), ("rewardId", .string "r")]
    LinkReward.payload.Carries payload ⟨"", "r"⟩ ∧ ¬ Linked (play .growing [] w).1 "" "r" ∧
      (w.served .growing "remove_reward_from_event" payload).1 ≠ .error (.linkNotFound "" "r") := by
  intro w payload
  refine ⟨rfl, not_linked_nil _ _, ?_⟩
  have hrefused := World.refuses_of_problems .growing w Router.get?_removeLink
    (LinkReward.carries_object "" "r") (by decide)
  rw [hrefused.outcome]
  exact nofun

end RewardDesk
