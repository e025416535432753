import RewardDesk.Proofs.Records.Receipts
import RewardDesk.Proofs.Session.Agreement
import RewardDesk.Proofs.Session.Turns

/-!
# Counters and records

What the counters say of the records. The records account for measures themselves: every reward and
every request was created, and every request that waits no more was reviewed (`Store.measures`). A
deed that fits adds to them just what is counted when it is done (`Deed.Leads.measures`), so after
every turn what has been counted is what the records account for, and besides the commands that were
dispatched (`Tallied`).

`Turn.counters_agree` says it of the values of the counters.
-/

namespace RewardDesk

/-! ## What the records account for

No counter is stored with the records, and none is needed to tell what should have been counted: the
records themselves show how they came about, since none of them ever goes away and a request is
reviewed once. -/

/-- The measures that a request accounts for. -/
def Request.measures (r : Request) : List Measure :=
  .requestCreated :: if r.status.isTerminal then [r.reviewMeasure] else []

/-- The measures that the records account for. -/
def Store.measures (s : Store) : List Measure :=
  s.rewards.values.map (fun r => .rewardCreated r.type.name) ++
    s.requests.requests.values.flatMap Request.measures

/-- A deed that fits adds to what the records account for just what is counted when it is done. -/
theorem Deed.Fits.measures {d : Deed} {s : Store} (h : d.Fits s) :
    (d.apply s).measures.Perm (d.measures ++ s.measures) := by
  cases d with
  | rewardCreated r =>
    exact ((Table.values_set_of_vacant h r).map _).append_right _
  | requestCreated r =>
    obtain ⟨hpending, hfree, -⟩ := h
    have hr : r.measures = [.requestCreated] := by
      rw [Request.measures, hpending]
      rfl
    have hvalues := (Table.values_set_of_vacant hfree r).flatMap_right Request.measures
    rw [List.flatMap_cons, hr] at hvalues
    exact (hvalues.append_left _).trans List.perm_middle
  | requestReviewed r =>
    obtain ⟨hterminal, -, old, hold, hpending, -⟩ := h
    have hbefore : old.measures = [.requestCreated] := by
      rw [Request.measures, hpending]
      rfl
    have hafter : r.measures = [.requestCreated, r.reviewMeasure] := by
      rw [Request.measures, if_pos hterminal]
    obtain ⟨rest, hvalues, hvalues'⟩ := Table.exists_values_set hold r
    have hrequests : ((s.requests.requests.set r.id r).values.flatMap Request.measures).Perm
        (r.reviewMeasure :: s.requests.requests.values.flatMap Request.measures) := by
      refine (hvalues'.flatMap_right _).trans (.trans ?_ ((hvalues.flatMap_right _).symm.cons _))
      rw [List.flatMap_cons, List.flatMap_cons, hbefore, hafter]
      exact .swap ..
    exact (hrequests.append_left _).trans List.perm_middle
  | _ => exact .refl _

theorem Deed.Leads.measures {deed : Option Deed} {s s' : Store} (h : Leads deed s s') :
    s'.measures.Perm (deed.elim [] Deed.measures ++ s.measures) := by
  cases deed with
  | none =>
    obtain rfl : s' = s := h
    exact .refl _
  | some d =>
    obtain ⟨hfits, rfl⟩ := h
    exact hfits.measures

/-! ## What an errand adds

The docket of an errand tells what it has done and its receipt what it has counted. Both are kept by
the same calls, so they end with the same deed. -/

variable {supply : Supply} {w : World Store}

/-- What is on the docket of an errand has come about, its receipt tells of the same deed, and what
it has counted has been added to what was counted before. -/
structure Receipt.Vouches (supply : Supply) (before w : World Store) (g : Docket) (r : Receipt) :
    Prop where
  effected : Effected supply before.storage w g
  deed : r.deed = g.deed
  tally : w.tally = before.tally ++ r.counted

namespace Receipt.Vouches

variable {before : World Store} {g : Docket} {r : Receipt}

theorem start (horder : InOrder supply w fun _ : Unit => {}) : Vouches supply w w {} {} where
  effected := ⟨horder, rfl⟩
  deed := rfl
  tally := (List.append_nil _).symm

theorem call (hids : Function.Injective supply.id) {c : Call} (h : Vouches supply before w g r)
    (hallows : g.allows c) :
    Vouches supply before (World.answer .memory supply c w).2
      (g.after c (World.answer .memory supply c w).1)
      (r.after c (World.answer .memory supply c w).1) := by
  have heffected := h.effected.call hids hallows
  cases c with
  | statement q =>
    refine ⟨heffected, ?_, h.tally⟩
    have hdocket := g.deed_after_statement q (w.storage.execute q).1
    exact (congrArg _ h.deed).trans hdocket.symm
  | measure m =>
    refine ⟨heffected, h.deed, ?_⟩
    show w.tally ++ [m] = before.tally ++ (r.counted ++ [m])
    rw [h.tally, List.append_assoc]
  | freshId => exact ⟨heffected, h.deed, h.tally⟩
  | clock => exact ⟨heffected, h.deed, h.tally⟩
  | publish change => exact ⟨heffected, h.deed, h.tally⟩
  | log entry => exact ⟨heffected, h.deed, h.tally⟩

end Receipt.Vouches

/-- An errand that works alone counts what it does to the records, and itself if it is a command. -/
theorem Errand.exists_counted (hids : Function.Injective supply.id)
    (horder : InOrder supply w fun _ : Unit => {}) (e : Errand) :
    let outcome := (World.run .memory supply e.program w).1
    let w' := (World.run .memory supply e.program w).2
    ∃ deed, Deed.Leads deed w.storage w'.storage ∧
      w'.tally = w.tally ++ (deed.elim [] Deed.measures ++ (e.measured? outcome).toList) := by
  intro outcome w'
  obtain ⟨g, hvouches, -, hcounted⟩ := Contract.determined.keeps_alone
    (fun w' g => Receipt.Vouches supply w w' g.1 g.2) (fun h hallows => h.call hids hallows.1)
    (.start horder) (Contract.determined.obeys_both e.obeys_duty e.obeys_bookkeeping)
  refine ⟨g.1.deed, hvouches.effected.leads, ?_⟩
  rw [hvouches.tally, hcounted, hvouches.deed]

/-! ## The tally

Each measure is either of a record or of a command, and the two parts of the tally are compared with
two different things: the store as it is, and the notes of the turns that were taken. -/

/-- The part of a tally that is about records. -/
def Tally.ofRecords (t : Tally) : Tally := t.filter (·.command?.isNone)

/-- The part of a tally that is about commands. -/
def Tally.ofCommands (t : Tally) : Tally := t.filter (·.command?.isSome)

theorem Tally.parts_append {t deeds commands : Tally} (hdeeds : ∀ m ∈ deeds, m.command? = none)
    (hcommands : ∀ m ∈ commands, m.command?.isSome) :
    ofRecords (t ++ (deeds ++ commands)) = t.ofRecords ++ deeds ∧
      ofCommands (t ++ (deeds ++ commands)) = t.ofCommands ++ commands := by
  have hdeeds₁ : deeds.filter (·.command?.isNone) = deeds :=
    List.filter_eq_self.2 fun m hm => by simp [hdeeds m hm]
  have hdeeds₂ : deeds.filter (·.command?.isSome) = [] :=
    List.filter_eq_nil_iff.2 fun m hm => by simp [hdeeds m hm]
  have hcommands₁ : commands.filter (·.command?.isNone) = [] :=
    List.filter_eq_nil_iff.2 fun m hm => by simp [← Option.isSome_iff_ne_none, hcommands m hm]
  have hcommands₂ : commands.filter (·.command?.isSome) = commands := List.filter_eq_self.2 hcommands
  simp only [ofRecords, ofCommands, List.filter_append, hdeeds₁, hdeeds₂, hcommands₁, hcommands₂,
    List.append_nil, List.nil_append, and_self]

theorem Deed.command?_of_measures {deed : Option Deed} :
    ∀ m ∈ deed.elim [] Deed.measures, m.command? = none := by
  cases deed with
  | none => exact fun _ hm => absurd hm List.not_mem_nil
  | some d =>
    cases d with
    | rewardCreated r => simp [Deed.measures, Measure.command?]
    | requestCreated r => simp [Deed.measures, Measure.command?]
    | requestReviewed r => simp [Deed.measures, Request.reviewMeasure, Measure.command?]
    | _ => simp [Deed.measures]

theorem Errand.command?_of_measured {e : Errand} {outcome : Except DeskError Json} :
    ∀ m ∈ e.measured? outcome, m.command?.isSome := by
  intro m hm
  cases e with
  | command name payload =>
    rw [measured?] at hm
    split at hm
    · rw [← Option.mem_some.1 hm]
      rfl
    · exact absurd hm (Option.not_mem_none m)
  | review id status => exact absurd hm (Option.not_mem_none m)

/-- What was counted in a turn besides a deed. -/
def Turn.Note.measured? : Note → Option Measure
  | .served e outcome _ _ => e.measured? outcome
  | _ => none

theorem Turn.measured_snoc (notes : List Note) (note : Note) :
    (notes ++ [note]).filterMap Note.measured? =
      notes.filterMap Note.measured? ++ note.measured?.toList := by
  rw [List.filterMap_append]
  cases hnote : note.measured? with
  | none => simp [hnote]
  | some m => simp [hnote]

/-- What has been counted is what the records account for and the commands that were dispatched. -/
structure Tallied (supply : Supply) (notes : List Turn.Note) (w : World Store) : Prop where
  rested : Rested supply w
  records : w.tally.ofRecords.Perm w.storage.measures
  commands : w.tally.ofCommands = notes.filterMap Turn.Note.measured?

namespace Tallied

variable {notes : List Turn.Note}

theorem start (supply : Supply) (channel : Channel StatusChange) :
    Tallied supply [] { storage := .empty, channel } where
  rested := .start supply channel
  records := .refl _
  commands := rfl

/-- Who joins, leaves or reads the channel counts nothing. -/
theorem idle {note : Turn.Note} (h : Tallied supply notes w) (hnote : note.measured? = none)
    (channel : Channel StatusChange) : Tallied supply (notes ++ [note]) { w with channel } where
  rested := h.rested.channel channel
  records := h.records
  commands := by
    rw [Turn.measured_snoc, hnote]
    exact h.commands.trans (List.append_nil _).symm

/-- An errand adds to the one part of the tally what its deed adds to the records, and to the other
itself. -/
theorem errand (hids : Function.Injective supply.id) (h : Tallied supply notes w) (e : Errand) :
    Tallied supply (notes ++ [(Turn.take supply w (.errand e)).1])
      (Turn.take supply w (.errand e)).2 := by
  obtain ⟨deed, hleads, htally⟩ := e.exists_counted hids h.rested.inOrder
  have hdeed : ∀ m ∈ deed.elim [] Deed.measures, m.command? = none := Deed.command?_of_measures
  have hself : ∀ m ∈ (e.measured? (World.run .memory supply e.program w).1).toList,
      m.command?.isSome :=
    fun m hm => Errand.command?_of_measured m (Option.mem_toList.1 hm)
  obtain ⟨hrecords, hcommands⟩ := Tally.parts_append (t := w.tally) hdeed hself
  rw [← htally] at hrecords hcommands
  refine ⟨h.rested.errand hids e, ?_, ?_⟩
  · have hperm : (World.run .memory supply e.program w).2.tally.ofRecords.Perm
        (deed.elim [] Deed.measures ++ w.storage.measures) := by
      rw [hrecords]
      exact List.perm_append_comm.trans (h.records.append_left _)
    exact hperm.trans hleads.measures.symm
  · rw [Turn.measured_snoc, ← h.commands]
    exact hcommands

theorem take (hids : Function.Injective supply.id) (h : Tallied supply notes w) (t : Turn) :
    Tallied supply (notes ++ [(t.take supply w).1]) (t.take supply w).2 := by
  cases t with
  | errand e => exact h.errand hids e
  | subscribe who => exact h.idle rfl _
  | unsubscribe who => exact h.idle rfl _
  | drain who => exact h.idle rfl _

end Tallied

/-! ## Counters

A counter is looked up by its name and its labels, as whoever reads the metrics does. Different
measures have different names or labels, so the value of a counter is the number of times that one
measure was taken. -/

/-- The value of a counter with its labels. -/
def Tally.value (t : Tally) (counter : String) (labels : List (String × String)) : Nat :=
  t.countP fun m => m.counter = counter && m.labels = labels

/-- The number of durations that were measured of a command. -/
def Tally.durations (t : Tally) (command : String) : Nat :=
  t.countP (·.command? = some command)

/-- A measure is all that its counter and its labels say. -/
theorem Measure.eq_iff {m m' : Measure} :
    m = m' ↔ m.counter = m'.counter ∧ m.labels = m'.labels := by
  cases m with
  | _ => cases m' with
    | _ => simp [counter, labels]

theorem Tally.value_eq_count (t : Tally) (m : Measure) :
    t.value m.counter m.labels = t.count m := by
  refine List.countP_congr fun m' _ => ?_
  simp [Measure.eq_iff]

theorem Tally.count_ofRecords (t : Tally) {m : Measure} (h : m.command? = none) :
    t.ofRecords.count m = t.count m :=
  List.count_filter (by rw [h]; rfl)

theorem RewardType.name_inj {t t' : RewardType} : t.name = t'.name ↔ t = t' := by
  cases t with
  | _ => cases t' with
    | _ => decide

theorem RequestStatus.name_inj {s s' : RequestStatus} : s.name = s'.name ↔ s = s' := by
  cases s with
  | _ => cases s' with
    | _ => decide

/-- A request accounts for no measure twice. -/
theorem Request.nodup_measures (r : Request) : r.measures.Nodup := by
  rw [measures]
  split
  · simp [reviewMeasure]
  · simp

/-- A measure is counted once for every request that accounts for it. -/
theorem Request.count_measures (m : Measure) (requests : List Request) :
    (requests.flatMap measures).count m = requests.countP (m ∈ ·.measures) := by
  induction requests with
  | nil => rfl
  | cons r requests ih =>
    rw [List.flatMap_cons, List.count_append, ih, List.countP_cons, r.nodup_measures.count,
      Nat.add_comm]
    simp only [decide_eq_true_eq]

namespace Store

variable {s : Store}

theorem count_rewardCreated (s : Store) (type : RewardType) :
    s.measures.count (.rewardCreated type.name) = s.rewards.values.countP (·.type = type) := by
  have hrequests : (s.requests.requests.values.flatMap Request.measures).count
      (.rewardCreated type.name) = 0 := by
    rw [Request.count_measures, List.countP_eq_zero]
    simp [Request.measures, Request.reviewMeasure]
  rw [measures, List.count_append, hrequests, Nat.add_zero, List.count, List.countP_map]
  refine List.countP_congr fun r _ => ?_
  simp [RewardType.name_inj]

/-- The rewards account for nothing else. -/
theorem count_of_requests (s : Store) {m : Measure} (h : ∀ type, m ≠ .rewardCreated type) :
    s.measures.count m = s.requests.requests.values.countP (m ∈ ·.measures) := by
  have hrewards : (s.rewards.values.map fun r => Measure.rewardCreated r.type.name).count m = 0 := by
    rw [List.count_eq_zero, List.mem_map]
    rintro ⟨r, -, rfl⟩
    exact h _ rfl
  rw [measures, List.count_append, hrewards, Nat.zero_add, Request.count_measures]

theorem count_requestCreated (s : Store) :
    s.measures.count .requestCreated = s.requests.requests.values.length := by
  rw [s.count_of_requests (m := .requestCreated) fun _ => nofun, List.countP_eq_length]
  simp [Request.measures]

theorem mem_measures_transition {source target : String} {r : Request} :
    .transition source target ∈ r.measures ↔
      r.status.isTerminal ∧ source = RequestStatus.pending.name ∧ target = r.status.name := by
  rw [Request.measures]
  split
  · simp [Request.reviewMeasure, *]
  · simp [*]

/-- The records account for no transitions but those that end a wait. -/
theorem exists_of_transition {source target : String}
    (h : .transition source target ∈ s.measures) :
    ∃ r : Request, r.status.isTerminal ∧ source = RequestStatus.pending.name ∧
      target = r.status.name := by
  rw [measures, List.mem_append, List.mem_map, List.mem_flatMap] at h
  rcases h with ⟨r, -, hr⟩ | ⟨r, -, hr⟩
  · exact absurd hr nofun
  · exact ⟨r, mem_measures_transition.1 hr⟩

theorem count_transition (s : Store) {status : RequestStatus} (h : status.isTerminal) :
    s.measures.count (.transition RequestStatus.pending.name status.name) =
      s.requests.requests.values.countP (·.status = status) := by
  rw [s.count_of_requests (m := .transition ..) fun _ => nofun]
  refine List.countP_congr fun r _ => ?_
  rw [decide_eq_true_eq, decide_eq_true_eq, mem_measures_transition]
  constructor
  · rintro ⟨-, -, hstatus⟩
    exact (RequestStatus.name_inj.1 hstatus).symm
  · rintro rfl
    exact ⟨h, rfl, rfl⟩

end Store

/-! ## Dispatches

Commands that do not exist are not counted under their name, which is why everything here asks for
the name of a command of the router. -/

/-- Was the command dispatched? -/
def Turn.Note.dispatches (command : String) : Note → Bool
  | .served (.command name _) .. => name = command
  | _ => false

/-- Was the command dispatched, and did it succeed or end with an error as the label says? -/
def Turn.Note.endsAs (command label : String) : Note → Bool
  | .served (.command name _) (.ok _) .. => name = command && "success" = label
  | .served (.command name _) (.error e) .. => name = command && e.code = label
  | _ => false

namespace Turn.Note

variable {command : String}

/-- What is counted of a dispatch has a property of the measures of one command if it is that
command and ended in such a way. -/
theorem any_measured (hcommand : (Router.standard.get? command).isSome) {p : Measure → Bool}
    (hp : ∀ name label, p (.command name label) → name = command) {name : String} {payload : Json}
    {outcome : Except DeskError Json} {before after : Store} :
    (served (.command name payload) outcome before after).measured?.any p =
      (name = command && p (.command command (Router.statusOf outcome))) := by
  rw [measured?, Errand.measured?]
  by_cases hname : name = command
  · subst hname
    simp [hcommand]
  · have hother : p (.command name (Router.statusOf outcome)) = false :=
      Bool.eq_false_iff.2 fun h => hname (hp _ _ h)
    split
    · simp [hname, hother]
    · simp [hname]

theorem any_measured_label (hcommand : (Router.standard.get? command).isSome) (label : String)
    (note : Note) :
    note.measured?.any (· == .command command label) = note.endsAs command label := by
  cases note with
  | served e outcome before after =>
    cases e with
    | command name payload =>
      rw [any_measured hcommand (by simp +contextual), Bool.eq_iff_iff]
      cases outcome with
      | _ => simp [endsAs, Router.statusOf, Measure.success]
    | review id status => rfl
  | _ => rfl

theorem any_measured_command (hcommand : (Router.standard.get? command).isSome) (note : Note) :
    note.measured?.any (·.command? = some command) = note.dispatches command := by
  cases note with
  | served e outcome before after =>
    cases e with
    | command name payload =>
      rw [any_measured hcommand (by simp [Measure.command?])]
      simp [dispatches, Measure.command?]
    | review id status => rfl
  | _ => rfl

end Turn.Note

/-- The counters tell what is stored, and what was dispatched and how it ended. -/
structure Tally.Tells (t : Tally) (s : Store) (notes : List Turn.Note) : Prop where
  rewards : ∀ type : RewardType, t.value "rewards_created_total" [("reward_type", type.name)] =
    s.rewards.values.countP (·.type = type)
  requests : t.value "reward_requests_created_total" [] = s.requests.requests.values.length
  reviews : ∀ status ∈ [RequestStatus.approved, .rejected],
    t.value "reward_request_transitions_total" [("from", "PENDING"), ("to", status.name)] =
      s.requests.requests.values.countP (·.status = status)
  reviewsOnly : ∀ labels, t.value "reward_request_transitions_total" labels ≠ 0 →
    ∃ status ∈ [RequestStatus.approved, .rejected],
      labels = [("from", "PENDING"), ("to", status.name)]
  commands : ∀ command, (Router.standard.get? command).isSome → ∀ label,
    t.value "commands_total" [("command", command), ("status", label)] =
      notes.countP (·.endsAs command label)
  durations : ∀ command, (Router.standard.get? command).isSome →
    t.durations command = notes.countP (·.dispatches command)

namespace Tallied

variable {notes : List Turn.Note}

theorem value_of_records (h : Tallied supply notes w) {m : Measure} (hm : m.command? = none) :
    w.tally.value m.counter m.labels = w.storage.measures.count m := by
  rw [Tally.value_eq_count, ← Tally.count_ofRecords _ hm]
  exact h.records.count_eq m

theorem countP_commands (h : Tallied supply notes w) {p : Measure → Bool}
    (hp : ∀ m, p m → m.command?.isSome) :
    w.tally.countP p = notes.countP fun note => note.measured?.any p := by
  have hpart : w.tally.countP p = w.tally.ofCommands.countP p := by
    rw [Tally.ofCommands, List.countP_filter]
    refine List.countP_congr fun m _ => ?_
    simpa using hp m
  rw [hpart, h.commands, List.countP_filterMap]
  refine List.countP_congr fun note _ => ?_
  cases note.measured? with
  | _ => simp

theorem tells (h : Tallied supply notes w) : w.tally.Tells w.storage notes where
  rewards type := (h.value_of_records rfl).trans (w.storage.count_rewardCreated type)
  requests := (h.value_of_records rfl).trans w.storage.count_requestCreated
  reviews status hstatus := by
    have hterminal : status.isTerminal := RequestStatus.isTerminal_iff.2 (by simpa using hstatus)
    exact (h.value_of_records rfl).trans (w.storage.count_transition hterminal)
  reviewsOnly labels hlabels := by
    obtain ⟨m, hm, hshown⟩ := List.countP_pos_iff.1 (Nat.pos_of_ne_zero hlabels)
    obtain ⟨hcounter, hlabels⟩ :
        m.counter = "reward_request_transitions_total" ∧ m.labels = labels := by
      simpa using hshown
    cases m with
    | transition source target =>
      have hmeasures : .transition source target ∈ w.storage.measures :=
        h.records.mem_iff.1 (List.mem_filter.2 ⟨hm, rfl⟩)
      obtain ⟨r, hterminal, rfl, rfl⟩ := Store.exists_of_transition hmeasures
      exact ⟨r.status, by simpa using RequestStatus.isTerminal_iff.1 hterminal, hlabels.symm⟩
    | _ => exact absurd hcounter (by simp [Measure.counter])
  commands command hcommand label := by
    have hvalue : w.tally.value "commands_total" [("command", command), ("status", label)] =
        w.tally.countP (· == .command command label) :=
      w.tally.value_eq_count (.command command label)
    rw [hvalue, h.countP_commands fun m hm => by rw [eq_of_beq hm]; rfl]
    exact List.countP_congr fun note _ => by rw [note.any_measured_label hcommand]
  durations command hcommand := by
    rw [Tally.durations, h.countP_commands fun m hm => by rw [of_decide_eq_true hm]; rfl]
    exact List.countP_congr fun note _ => by rw [note.any_measured_command hcommand]

end Tallied

/-- After every turn the counters tell what is stored, and what was dispatched and how it ended:

* the rewards of each type, the requests, and the requests that were approved or rejected, and no
  other transition is counted;
* the dispatches of each command by how they ended, and as many durations as there were dispatches.

To dispatch a command that is unknown moves no counter. -/
theorem Turn.counters_agree {supply : Supply} (hids : Function.Injective supply.id)
    (channel : Channel StatusChange) (turns : List Turn) :
    let played := play supply turns { storage := .empty, channel }
    played.2.tally.Tells played.2.storage played.1 ∧
      ∀ name payload, Router.standard.get? name = none →
        (World.run .memory supply (Router.standard.dispatch name payload) played.2).2.tally =
          played.2.tally := by
  intro played
  have h : Tallied supply played.1 played.2 := play_holds (Tallied supply)
    (fun _ _ t htallied => htallied.take hids t) turns (Tallied.start supply channel)
  refine ⟨h.tells, fun name payload hunknown => ?_⟩
  have hrefused : (Router.standard.dispatch name payload).Agrees
      (pure (.error (.unknownCommand name))) := Router.agrees_dispatch_unknown hunknown
  exact (hrefused.run .memory supply (.refl played.2)).2.tally

/-- An event, a reward, an application that is approved, and a command that nobody knows. -/
def Turn.day : List Turn := [
  .errand (.opening "E"),
  .errand (.command "create_reward" (.object [("name", .string "R"), ("type", .string "BADGE"),
    ("rewardData", .object [("badgeId", .string "b")])])),
  .errand (.application "u" "x"),
  .errand (.review "xxx" .approved),
  .errand (.command "approve_everything" .null)]

/-- At the end of the day one badge is counted, and one request that was approved. -/
theorem Turn.counters_agree_of_day :
    Function.Injective Supply.growing.id ∧
      let played := play .growing day { storage := .empty, channel := .ofCapacity 1 }
      played.2.tally.Tells played.2.storage played.1 ∧
      played.2.tally.value "rewards_created_total" [("reward_type", "BADGE")] = 1 ∧
      played.2.tally.value "reward_request_transitions_total"
        [("from", "PENDING"), ("to", "APPROVED")] = 1 ∧
      played.2.tally.value "commands_total"
        [("command", "create_reward"), ("status", "success")] = 1 := by
  obtain ⟨htells, -⟩ := counters_agree Supply.growing_injective (.ofCapacity 1) day
  refine ⟨Supply.growing_injective, htells, ?_, ?_, ?_⟩
  · exact (htells.rewards .badge).trans (by decide +kernel)
  · exact (htells.reviews .approved (by decide)).trans (by decide +kernel)
  · exact (htells.commands "create_reward" (by decide +kernel) "success").trans (by decide +kernel)

end RewardDesk
