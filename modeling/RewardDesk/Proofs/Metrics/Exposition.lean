import Mathlib
import RewardDesk.Metrics.Exposition
import RewardDesk.Proofs.Number.Counting
import RewardDesk.Proofs.Session.Counters

/-!
# What the exposition shows

Two accounts are kept of what is measured. A tally has the measures themselves, and a counter is the
number of those that are alike. The exposition has samples, of which each measure raises one or more
by some amount. Here the two are compared: a sample shows how often its counter was measured
(`Exposition.shown_counter`), and the number of durations besides (`Exposition.shown_durations`).

    measures ──Tally.value──▶ number
        │                       │
    Exposition.samples       Binary64.ofNat
        ▼                       ▼
     samples ──shown────────▶ double

A sample is known by its text, so first of all different counters must have different texts. They do
unless a label has to be escaped, and the labels of the desk are names of its own
(`Tallied.plain`).
-/

namespace RewardDesk
namespace Exposition

/-! ## Texts of samples

The text of a sample is cut at its first brace, and behind it each label at the first sign of
equality and at the quotation mark that ends its value. For these cuts no label may have one of the
signs in it.
-/

/-- Is there nothing to escape in the text? -/
def PlainText (text : String) : Prop := ∀ c ∈ text.toList, c ≠ '\n' ∧ c ≠ '"' ∧ c ≠ '\\'

instance (text : String) : Decidable (PlainText text) := List.decidableBAll _ text.toList

/-- A name and labels whose text can be cut into them again. -/
structure Plain (name : String) (labels : List (String × String)) : Prop where
  name : '\x7b' ∉ name.toList
  keys : ∀ l ∈ labels, '=' ∉ l.1.toList
  values : ∀ l ∈ labels, PlainText l.2

theorem escaped_of_plain {cs : List Char} (h : ∀ c ∈ cs, c ≠ '\n' ∧ c ≠ '"' ∧ c ≠ '\\') :
    escaped false cs = cs := by
  induction cs with
  | nil => rfl
  | cons c cs ih =>
    obtain ⟨hline, hquote, hslash⟩ := h c List.mem_cons_self
    rw [escaped, if_neg hline, if_neg hquote, if_neg hslash, if_neg Bool.false_ne_true,
      ih fun c hc => h c (List.mem_cons_of_mem _ hc)]

/-- Two texts behind a sign that neither beginning has. -/
theorem append_cons_inj {c : Char} {x x' y y' : List Char} (hx : c ∉ x) (hx' : c ∉ x')
    (h : x ++ c :: y = x' ++ c :: y') : x = x' ∧ y = y' := by
  induction x generalizing x' with
  | nil =>
    cases x' with
    | nil => exact ⟨rfl, (List.cons.inj h).2⟩
    | cons d x' => exact absurd ((List.cons.inj h).1 ▸ List.mem_cons_self) hx'
  | cons d x ih =>
    cases x' with
    | nil => exact absurd ((List.cons.inj h).1 ▸ List.mem_cons_self) hx
    | cons d' x' =>
      obtain ⟨rfl, hrest⟩ := List.cons.inj h
      obtain ⟨rfl, hy⟩ := ih (fun hc => hx (List.mem_cons_of_mem _ hc))
        (fun hc => hx' (List.mem_cons_of_mem _ hc)) hrest
      exact ⟨rfl, hy⟩

/-- The characters of a label that needs no escaping. -/
def spelled (l : String × String) : List Char := l.1.toList ++ '=' :: '"' :: (l.2.toList ++ ['"'])

/-- The characters behind a label. -/
def spelledRest : List (String × String) → List Char
  | [] => ['\x7d']
  | l :: rest => ',' :: (spelled l ++ spelledRest rest)

theorem toList_label {l : String × String} (h : PlainText l.2) : (label l).toList = spelled l := by
  simp [label, spelled, escaped_of_plain h]

theorem toList_labels {l : String × String} {rest : List (String × String)}
    (h : ∀ l' ∈ l :: rest, PlainText l'.2) :
    (",".intercalate ((l :: rest).map label) ++ "\x7d").toList = spelled l ++ spelledRest rest := by
  rw [String.toList_append, String.toList_intercalate, List.map_map]
  induction rest generalizing l with
  | nil => simp [toList_label (h l List.mem_cons_self), spelledRest]
  | cons l' rest ih =>
    have hrest := ih fun l'' hl'' => h l'' (List.mem_cons_of_mem _ hl'')
    simp only [List.map_cons] at hrest ⊢
    rw [List.intercalate_cons_cons, List.append_assoc, hrest, Function.comp_apply,
      toList_label (h l List.mem_cons_self)]
    simp [spelledRest]

theorem toList_sample_nil (name : String) : (sample name []).toList = name.toList := rfl

theorem toList_sample_cons {name : String} {l : String × String} {rest : List (String × String)}
    (h : ∀ l' ∈ l :: rest, PlainText l'.2) :
    (sample name (l :: rest)).toList = name.toList ++ '\x7b' :: (spelled l ++ spelledRest rest) := by
  have hsample : sample name (l :: rest) =
      name ++ "\x7b" ++ (",".intercalate ((l :: rest).map label) ++ "\x7d") :=
    String.append_assoc ..
  rw [hsample, String.toList_append, toList_labels h, String.toList_append, List.append_assoc]
  rfl

/-- A label is cut off in front of the rest. -/
theorem spelled_append_inj {l l' : String × String} {x x' : List Char} (hkey : '=' ∉ l.1.toList)
    (hkey' : '=' ∉ l'.1.toList) (hvalue : PlainText l.2) (hvalue' : PlainText l'.2)
    (h : spelled l ++ x = spelled l' ++ x') : l = l' ∧ x = x' := by
  simp only [spelled, List.append_assoc, List.cons_append, List.nil_append] at h
  obtain ⟨hname, hrest⟩ := append_cons_inj hkey hkey' h
  obtain ⟨htext, hx⟩ := append_cons_inj (fun hc => (hvalue _ hc).2.1 rfl)
    (fun hc => (hvalue' _ hc).2.1 rfl) (List.cons.inj hrest).2
  exact ⟨Prod.ext (String.toList_inj.1 hname) (String.toList_inj.1 htext), hx⟩

theorem spelledRest_inj {labels labels' : List (String × String)}
    (hkeys : ∀ l ∈ labels, '=' ∉ l.1.toList) (hkeys' : ∀ l ∈ labels', '=' ∉ l.1.toList)
    (hvalues : ∀ l ∈ labels, PlainText l.2) (hvalues' : ∀ l ∈ labels', PlainText l.2)
    (h : spelledRest labels = spelledRest labels') : labels = labels' := by
  induction labels generalizing labels' with
  | nil =>
    cases labels' with
    | nil => rfl
    | cons l' labels' => exact absurd (List.cons.inj h).1 (by decide)
  | cons l labels ih =>
    cases labels' with
    | nil => exact absurd (List.cons.inj h).1 (by decide)
    | cons l' labels' =>
      rw [List.forall_mem_cons] at hkeys hkeys' hvalues hvalues'
      obtain ⟨rfl, hrest⟩ := spelled_append_inj hkeys.1 hkeys'.1 hvalues.1 hvalues'.1
        (List.cons.inj h).2
      rw [ih hkeys.2 hkeys'.2 hvalues.2 hvalues'.2 hrest]

/-- The text of a sample tells its name and its labels. -/
theorem sample_inj {name name' : String} {labels labels' : List (String × String)}
    (h : Plain name labels) (h' : Plain name' labels') :
    sample name labels = sample name' labels' ↔ name = name' ∧ labels = labels' := by
  refine ⟨fun heq => ?_, fun ⟨hname, hlabels⟩ => hname ▸ hlabels ▸ rfl⟩
  have htext := congrArg String.toList heq
  obtain ⟨hname, hkeys, hvalues⟩ := h
  obtain ⟨hname', hkeys', hvalues'⟩ := h'
  cases labels with
  | nil =>
    cases labels' with
    | nil => exact ⟨String.toList_inj.1 htext, rfl⟩
    | cons l' labels' =>
      rw [toList_sample_nil, toList_sample_cons hvalues'] at htext
      exact absurd (htext ▸ List.mem_append_right _ List.mem_cons_self) hname
  | cons l labels =>
    cases labels' with
    | nil =>
      rw [toList_sample_nil, toList_sample_cons hvalues] at htext
      exact absurd (htext ▸ List.mem_append_right _ List.mem_cons_self) hname'
    | cons l' labels' =>
      rw [toList_sample_cons hvalues, toList_sample_cons hvalues'] at htext
      obtain ⟨hsame, hlabels⟩ := append_cons_inj hname hname' htext
      rw [List.forall_mem_cons] at hkeys hkeys' hvalues hvalues'
      obtain ⟨rfl, hrest⟩ := spelled_append_inj hkeys.1 hkeys'.1 hvalues.1 hvalues'.1 hlabels
      rw [spelledRest_inj hkeys.2 hkeys'.2 hvalues.2 hvalues'.2 hrest]
      exact ⟨String.toList_inj.1 hsame, rfl⟩

/-! ## Sums

Each reading raises samples one after the other, and what a sample comes to is the sum of what it
was raised by, from zero on. A sample that has come to nothing is not shown.
-/

/-- What is shown of a sample; one that is not there is zero. -/
def shown (key : String) (samples : List (String × Binary64)) : Binary64 :=
  (Keyed.get? key samples).getD (.zero false)

/-- What a sample is raised by, in order. -/
def raises (key : String) (growths : List (String × Binary64)) : List Binary64 :=
  (growths.filter (·.1 = key)).map (·.2)

theorem raises_cons (key : String) (growth : String × Binary64) (growths : List (String × Binary64)) :
    raises key (growth :: growths) =
      if growth.1 = key then growth.2 :: raises key growths else raises key growths := by
  by_cases h : growth.1 = key
  · simp [raises, h]
  · simp [raises, h]

theorem raises_append (key : String) (growths others : List (String × Binary64)) :
    raises key (growths ++ others) = raises key growths ++ raises key others := by
  rw [raises, List.filter_append, List.map_append]
  rfl

theorem ascending_foldl_raise {samples : List (String × Binary64)} (h : Keyed.Ascending samples)
    (growths : List (String × Binary64)) : Keyed.Ascending (growths.foldl raise samples) := by
  induction growths generalizing samples with
  | nil => exact h
  | cons growth growths ih => exact ih h.set

theorem shown_foldl_raise {samples : List (String × Binary64)} (h : Keyed.Ascending samples)
    (key : String) (growths : List (String × Binary64)) :
    shown key (growths.foldl raise samples) =
      (raises key growths).foldl Binary64.add (shown key samples) := by
  induction growths generalizing samples with
  | nil => rfl
  | cons growth growths ih =>
    have hraise : Keyed.Ascending (raise samples growth) := h.set
    have hshown : shown key (raise samples growth) =
        if growth.1 = key then (shown key samples).add growth.2 else shown key samples := by
      rw [shown, raise, Keyed.get?_set h]
      by_cases hkey : growth.1 = key
      · subst hkey
        rw [if_pos rfl, if_pos rfl]
        rfl
      · rw [if_neg (Ne.symm hkey), if_neg hkey]
        rfl
    rw [List.foldl_cons, ih hraise, hshown, raises_cons]
    split
    · rfl
    · rfl

/-- To leave samples out changes what is found of no other. -/
theorem get?_filter {samples : List (String × Binary64)} (h : Keyed.Ascending samples) (key : String)
    (p : Binary64 → Bool) :
    Keyed.get? key (samples.filter fun s => p s.2) = (Keyed.get? key samples).filter p := by
  refine Option.ext fun x => ?_
  have hfilter : Keyed.Ascending (samples.filter fun s => p s.2) := h.filter _
  rw [← Keyed.mem_iff_get?_eq_some hfilter, List.mem_filter, Keyed.mem_iff_get?_eq_some h,
    Option.filter_eq_some_iff]

/-- What is shown of a sample is the sum of what it was raised by, if that is a whole number. -/
theorem shown_samples {key : String} {readings : List Reading} {n : Nat}
    (h : (raises key (readings.flatMap Reading.growth)).foldl Binary64.add (.zero false) = .ofNat n) :
    shown key (samples readings) = .ofNat n := by
  have hascending : Keyed.Ascending ((readings.flatMap Reading.growth).foldl raise []) :=
    ascending_foldl_raise Keyed.ascending_nil _
  have hsum : shown key ((readings.flatMap Reading.growth).foldl raise []) = .ofNat n :=
    (shown_foldl_raise Keyed.ascending_nil key _).trans h
  rw [shown, samples, get?_filter hascending key fun x => decide (x.rank ≠ 0)]
  rw [shown] at hsum
  cases hget : Keyed.get? key ((readings.flatMap Reading.growth).foldl raise []) with
  | none =>
    rw [hget] at hsum
    exact hsum
  | some x =>
    rw [hget] at hsum
    obtain rfl : x = .ofNat n := hsum
    -- What ranks lowest is left out, and is zero.
    by_cases hrank : (Binary64.ofNat n).rank = 0
    · rw [Option.filter_some, if_neg (by simpa using hrank)]
      exact (Binary64.ofNat_of_rank hrank).symm
    · rw [Option.filter_some, if_pos (by simpa using hrank)]
      rfl

end Exposition

/-! ## What a reading adds

A measure raises the sample of its counter by one. A command raises two samples of its summary
besides, by one and by the time that it took, and these have names of their own.
-/

/-- Do the labels of the measure need no escaping? -/
def Measure.IsPlain (m : Measure) : Prop := ∀ l ∈ m.labels, Exposition.PlainText l.2

/-- The samples of a summary. -/
def Exposition.summaries : List String :=
  [Measure.durations ++ "_count", Measure.durations ++ "_sum"]

theorem Measure.counter_notMem_summaries (m : Measure) : m.counter ∉ Exposition.summaries := by
  cases m with
  | _ =>
    simp only [counter]
    decide

namespace Exposition

open RewardDesk.Measure (durations)

variable {counter : String} {labels : List (String × String)} {readings : List Reading}

theorem plain_of_measure {m : Measure} (h : m.IsPlain) : Plain m.counter m.labels where
  name := by
    cases m with
    | _ =>
      simp only [Measure.counter]
      decide
  keys := by
    cases m with
    | _ => simp [Measure.labels]
  values := h

theorem plainText_of_command {m : Measure} {command : String} (h : m.IsPlain)
    (hcommand : m.command? = some command) : PlainText command := by
  cases m with
  | command name status =>
    obtain rfl := Option.some.inj hcommand
    exact h ("command", name) List.mem_cons_self
  | _ => exact absurd hcommand nofun

/-- Every reading that counts raises the sample by one. -/
theorem raises_flatMap {key : String} {p : Reading → Bool}
    (h : ∀ r ∈ readings, raises key r.growth = List.replicate (if p r then 1 else 0) (.ofNat 1)) :
    raises key (readings.flatMap Reading.growth) =
      List.replicate (readings.countP p) (.ofNat 1) := by
  induction readings with
  | nil => rfl
  | cons r readings ih =>
    rw [List.forall_mem_cons] at h
    rw [List.flatMap_cons, raises_append, h.1, ih h.2, ← List.replicate_add, List.countP_cons,
      Nat.add_comm]

/-- A sample that is raised by ones shows how many there were. -/
theorem shown_of_raises {key : String} {p : Reading → Bool} (hfew : readings.length ≤ 2 ^ 53)
    (h : ∀ r ∈ readings, raises key r.growth = List.replicate (if p r then 1 else 0) (.ofNat 1)) :
    shown key (samples readings) = .ofNat (readings.countP p) := by
  refine shown_samples ?_
  rw [raises_flatMap h]
  exact Binary64.foldl_add_one (Nat.le_trans List.countP_le_length hfew)

theorem plain_of_summaries {summary command : String} (h : summary ∈ summaries)
    (hcommand : PlainText command) : Plain summary [("command", command)] where
  name := by
    have hnames : ∀ name ∈ summaries, '\x7b' ∉ name.toList := by decide
    exact hnames summary h
  keys := by simp
  values := by simpa using hcommand

/-- What a measure raises besides its counter. -/
def durationGrowth (r : Reading) : List (String × Binary64) :=
  r.measure.command?.elim [] fun command =>
    [(sample (durations ++ "_count") [("command", command)], .ofNat 1),
      (sample (durations ++ "_sum") [("command", command)], r.seconds)]

theorem growth_eq (r : Reading) :
    r.growth = (sample r.measure.counter r.measure.labels, .ofNat 1) :: durationGrowth r := by
  rw [Reading.growth, durationGrowth]
  cases r.measure.command? with
  | _ => rfl

theorem raises_counter (h : Plain counter labels) (hcounter : counter ∉ summaries) {r : Reading}
    (hr : r.measure.IsPlain) :
    raises (sample counter labels) r.growth =
      List.replicate (if r.measure.counter = counter && r.measure.labels = labels then 1 else 0)
        (.ofNat 1) := by
  have hduration : raises (sample counter labels) (durationGrowth r) = [] := by
    rw [durationGrowth]
    cases hcommand : r.measure.command? with
    | none => rfl
    | some command =>
      have hother : ∀ summary ∈ summaries,
          sample summary [("command", command)] ≠ sample counter labels := by
        intro summary hsummary heq
        have hplain := plain_of_summaries hsummary (plainText_of_command hr hcommand)
        exact hcounter (((sample_inj hplain h).1 heq).1 ▸ hsummary)
      rw [Option.elim_some, raises_cons, if_neg (hother _ List.mem_cons_self), raises_cons,
        if_neg (hother _ (List.mem_cons_of_mem _ List.mem_cons_self))]
      rfl
  rw [growth_eq, raises_cons, hduration]
  simp only [sample_inj (plain_of_measure hr) h, Bool.and_eq_true, decide_eq_true_eq]
  split
  · rfl
  · rfl

theorem raises_count {command : String} (h : PlainText command) {r : Reading}
    (hr : r.measure.IsPlain) :
    raises (sample (durations ++ "_count") [("command", command)]) r.growth =
      List.replicate (if r.measure.command? = some command then 1 else 0) (.ofNat 1) := by
  have hplain : Plain (durations ++ "_count") [("command", command)] :=
    plain_of_summaries List.mem_cons_self h
  have hcounter : sample r.measure.counter r.measure.labels ≠
      sample (durations ++ "_count") [("command", command)] := by
    intro heq
    obtain ⟨hname, -⟩ := (sample_inj (plain_of_measure hr) hplain).1 heq
    exact r.measure.counter_notMem_summaries (hname ▸ List.mem_cons_self)
  rw [growth_eq, raises_cons, if_neg hcounter, durationGrowth]
  cases hcommand : r.measure.command? with
  | none => rfl
  | some name =>
    have hname := plainText_of_command hr hcommand
    have hcount : Plain (durations ++ "_count") [("command", name)] :=
      plain_of_summaries List.mem_cons_self hname
    have hsum : Plain (durations ++ "_sum") [("command", name)] :=
      plain_of_summaries (List.mem_cons_of_mem _ List.mem_cons_self) hname
    have hother : durations ++ "_sum" ≠ durations ++ "_count" := by decide
    have hnone : raises (sample (durations ++ "_count") [("command", command)])
        [(sample (durations ++ "_sum") [("command", name)], r.seconds)] = [] := by
      rw [raises_cons, if_neg fun heq => hother ((sample_inj hsum hplain).1 heq).1]
      rfl
    rw [Option.elim_some, raises_cons, hnone]
    simp only [sample_inj hcount hplain]
    by_cases hsame : name = command
    · simp [hsame]
    · simp [hsame]

/-! ## What is shown -/

/-- The sample of a counter shows its value. -/
theorem shown_counter (hplain : ∀ r ∈ readings, r.measure.IsPlain)
    (hfew : readings.length ≤ 2 ^ 53) (h : Plain counter labels) (hcounter : counter ∉ summaries) :
    shown (sample counter labels) (samples readings) =
      .ofNat (Tally.value (readings.map (·.measure)) counter labels) := by
  have hraises := shown_of_raises hfew fun r hr => raises_counter h hcounter (hplain r hr)
  rw [hraises, Tally.value, List.countP_map]
  rfl

/-- The summary of a command shows how many durations were measured. -/
theorem shown_durations (hplain : ∀ r ∈ readings, r.measure.IsPlain)
    (hfew : readings.length ≤ 2 ^ 53) {command : String} (h : PlainText command) :
    shown (sample (durations ++ "_count") [("command", command)]) (samples readings) =
      .ofNat (Tally.durations (readings.map (·.measure)) command) := by
  have hraises := shown_of_raises hfew (p := fun r => decide (r.measure.command? = some command))
    fun r hr => by simpa using raises_count h (hplain r hr)
  rw [hraises, Tally.durations, List.countP_map]
  rfl

end Exposition

/-! ## The labels of the desk

All that the desk puts into labels are names that it has given itself: those of its commands, of its
errors, of the types of rewards and of the statuses of requests.
-/

theorem RewardType.plain_name (t : RewardType) : Exposition.PlainText t.name := by
  cases t with
  | _ => decide

theorem RequestStatus.plain_name (s : RequestStatus) : Exposition.PlainText s.name := by
  cases s with
  | _ => decide

theorem DeskError.plain_code (e : DeskError) : Exposition.PlainText e.code := by
  cases e with
  | _ =>
    simp only [code]
    decide

theorem Router.plain_statusOf (outcome : Except DeskError Json) :
    Exposition.PlainText (statusOf outcome) := by
  cases outcome with
  | ok data =>
    have hsuccess : Exposition.PlainText "success" := by decide
    exact hsuccess
  | error e => exact e.plain_code

theorem Router.plain_of_get? {name : String} (h : (standard.get? name).isSome) :
    Exposition.PlainText name := by
  have hnames : ∀ handler ∈ Command.all, Exposition.PlainText handler.name := by decide +kernel
  obtain ⟨handler, hget⟩ := Option.isSome_iff_exists.1 h
  obtain ⟨hmem, rfl⟩ := mem_of_standard_get? hget
  exact hnames handler hmem

theorem Store.plain_measures (s : Store) : ∀ m ∈ s.measures, m.IsPlain := by
  intro m hm
  rw [measures, List.mem_append, List.mem_map, List.mem_flatMap] at hm
  rcases hm with ⟨r, -, rfl⟩ | ⟨r, -, hr⟩
  · simpa [Measure.IsPlain, Measure.labels] using r.type.plain_name
  · rw [Request.measures, List.mem_cons] at hr
    rcases hr with rfl | hr
    · exact fun _ hl => absurd hl List.not_mem_nil
    · obtain rfl : m = r.reviewMeasure := by
        split at hr
        · exact List.mem_singleton.1 hr
        · exact absurd hr List.not_mem_nil
      simpa [Measure.IsPlain, Measure.labels, Request.reviewMeasure] using
        ⟨RequestStatus.pending.plain_name, r.status.plain_name⟩

theorem Turn.Note.plain_measured {note : Note} {m : Measure} (h : note.measured? = some m) :
    m.IsPlain := by
  cases note with
  | served e outcome before after =>
    cases e with
    | command name payload =>
      rw [measured?, Errand.measured?] at h
      by_cases hknown : (Router.standard.get? name).isSome
      · rw [if_pos hknown] at h
        obtain rfl := Option.some.inj h
        simpa [Measure.IsPlain, Measure.labels] using
          ⟨Router.plain_of_get? hknown, Router.plain_statusOf outcome⟩
      · rw [if_neg hknown] at h
        exact absurd h.symm (Option.some_ne_none m)
    | review id status => exact absurd h.symm (Option.some_ne_none m)
  | _ => exact absurd h.symm (Option.some_ne_none m)

/-- No label of what has been counted needs escaping. -/
theorem Tallied.plain {supply : Supply} {notes : List Turn.Note} {w : World Store}
    (h : Tallied supply notes w) : ∀ m ∈ w.tally, m.IsPlain := by
  intro m hm
  cases hcommand : m.command? with
  | none =>
    refine w.storage.plain_measures m (h.records.mem_iff.1 (List.mem_filter.2 ⟨hm, ?_⟩))
    rw [hcommand]
    rfl
  | some name =>
    have hpart : m ∈ w.tally.ofCommands := List.mem_filter.2 ⟨hm, by rw [hcommand]; rfl⟩
    rw [h.commands] at hpart
    obtain ⟨note, -, hnote⟩ := List.mem_filterMap.1 hpart
    exact Turn.Note.plain_measured hnote

/-- After every turn the exposition shows the tally: each counter its value, and for each command
how many durations were measured. -/
theorem Turn.exposition_shows {supply : Supply} (hids : Function.Injective supply.id)
    (channel : Channel StatusChange) (turns : List Turn) (readings : List Exposition.Reading)
    (hreadings : readings.map (·.measure) =
      (play supply turns { storage := .empty, channel }).2.tally)
    (hfew : readings.length ≤ 2 ^ 53) :
    let tally := (play supply turns { storage := .empty, channel }).2.tally
    (∀ counter labels, Exposition.Plain counter labels → counter ∉ Exposition.summaries →
      Exposition.shown (Exposition.sample counter labels) (Exposition.samples readings) =
        .ofNat (tally.value counter labels)) ∧
    ∀ command, Exposition.PlainText command →
      Exposition.shown (Exposition.sample "command_duration_seconds_count" [("command", command)])
        (Exposition.samples readings) = .ofNat (tally.durations command) := by
  intro tally
  have htallied := play_holds (Tallied supply) (fun _ _ t h => h.take hids t) turns
    (Tallied.start supply channel)
  have hplain : ∀ r ∈ readings, r.measure.IsPlain := fun r hr =>
    htallied.plain _ (hreadings ▸ List.mem_map_of_mem hr)
  constructor
  · intro counter labels h hcounter
    rw [Exposition.shown_counter hplain hfew h hcounter, hreadings]
  · intro command h
    have hshown := Exposition.shown_durations hplain hfew h
    rw [hreadings] at hshown
    exact hshown

end RewardDesk
