import RewardDesk.Config.Sections
import RewardDesk.Proofs.Store.Table

/-!
# Settings laid over each other

What a setting is when the entries of many sources were laid over each other. An entry by itself
says what it would make of nothing, and what it makes of anything else shows no less
(`Setting.Covers`). If it says nothing at a path it changes nothing there, and so what is read at a
path in the end is what the last entry says that says something (`Setting.read_join`).

A table that stands in the place of a single value is read by its name if it has but one. This is
why `Covers` speaks of the names in tables.
-/

namespace RewardDesk

/-- The names of a list with one more entry. -/
theorem Keyed.mem_names_set {κ α : Type} [Ord κ] [Std.LawfulEqOrd κ] {key k : κ} {value : α}
    {entries : List (κ × α)} :
    k ∈ (Keyed.set key value entries).map Prod.fst ↔ k = key ∨ k ∈ entries.map Prod.fst := by
  induction entries with
  | nil => simp [Keyed.set]
  | cons head rest ih =>
    obtain ⟨k', v⟩ := head
    rw [Keyed.set]
    cases hc : compare key k' with
    | lt => simp
    | eq =>
      obtain rfl : key = k' := Std.LawfulEqCmp.eq_of_compare hc
      simp
    | gt =>
      simp only [List.map_cons, List.mem_cons, ih]
      exact or_left_comm

/-- The names of entries that were entered one after the other. -/
theorem Keyed.mem_names_ofList {κ α : Type} [Ord κ] [Std.LawfulEqOrd κ] {k : κ}
    {entries : List (κ × α)} :
    k ∈ (Keyed.ofList entries).map Prod.fst ↔ k ∈ entries.map Prod.fst := by
  suffices hall : ∀ sorted : List (κ × α),
      k ∈ (entries.foldl (fun sorted e => Keyed.set e.1 e.2 sorted) sorted).map Prod.fst ↔
        k ∈ sorted.map Prod.fst ∨ k ∈ entries.map Prod.fst from (hall []).trans (by simp)
  induction entries with
  | nil => simp
  | cons e rest ih =>
    intro sorted
    rw [List.foldl_cons, ih, Keyed.mem_names_set, List.map_cons, List.mem_cons]
    exact or_assoc.trans or_left_comm

namespace Setting

/-- The setting at a path of names. -/
def at? : List String → Setting → Option Setting
  | [], s => some s
  | name :: path, s => (Keyed.get? name s.entries).bind (at? path)

/-- The names in a table. -/
def names (s : Setting) : List String := s.entries.map Prod.fst

/-! ## Entries that ascend

Tables are kept in the order of their names, and stay so whatever is laid over them. -/

theorem ascending_overlayEntries {upper lower : List (String × Setting)}
    (h : Keyed.Ascending lower) : Keyed.Ascending (overlayEntries upper lower) := by
  induction upper generalizing lower with
  | nil => rwa [overlayEntries]
  | cons head rest ih =>
    rw [overlayEntries]
    exact ih h.set

theorem ascending_alter {v s : Setting} (path : List Step) (h : Keyed.Ascending s.entries) :
    Keyed.Ascending (alter v.overlay path s).entries := by
  cases path with
  | nil =>
    cases v with
    | table upper => exact ascending_overlayEntries h
    | _ => exact Keyed.ascending_nil
  | cons step path =>
    cases step with
    | name name => exact h.set
    | place place => exact Keyed.ascending_nil

/-- The names of a table that was laid over another one are those of both. -/
theorem mem_names_overlayEntries {upper lower : List (String × Setting)} {name : String} :
    name ∈ (overlayEntries upper lower).map Prod.fst ↔
      name ∈ upper.map Prod.fst ∨ name ∈ lower.map Prod.fst := by
  induction upper generalizing lower with
  | nil => simp [overlayEntries]
  | cons head rest ih =>
    rw [overlayEntries, ih, Keyed.mem_names_set, List.map_cons, List.mem_cons]
    exact or_left_comm.trans or_assoc.symm

/-! ## One setting over another

A setting that is laid over another one is merged with it or takes its place. The outcome is
compared with what there would be without the lower one: `Covers` does so for single settings, and
`Over` for what is found under a name, where there may be nothing. -/

/-- Over `lower` something becomes `result` that would become `alone` over nothing. -/
inductive Covers (lower : Setting) : (alone result : Setting) → Prop
  | single {s : Setting} : s.entries = [] → (∀ entries, s ≠ .table entries) → Covers lower s s
  | lists (items items' : List Setting) : Covers lower (.list items) (.list items')
  /-- A table without entries. -/
  | void {entries : List (String × Setting)} : entries = lower.entries ∨ entries = [] →
      Covers lower (.table []) (.table entries)
  | tables {entries entries' : List (String × Setting)} : entries ≠ [] → Keyed.Ascending entries →
      entries.map Prod.fst ⊆ entries'.map Prod.fst →
      Covers lower (.table entries) (.table entries')

namespace Covers

variable {lower alone result : Setting}

theorem names_subset (h : Covers lower alone result) : alone.names ⊆ result.names := by
  cases h with
  | single => exact fun _ hname => hname
  | lists => exact List.nil_subset _
  | void => exact List.nil_subset _
  | tables _ _ hsubset => exact hsubset

theorem ascending (h : Covers lower alone result) : Keyed.Ascending alone.entries := by
  cases h with
  | single hnone =>
    rw [hnone]
    exact Keyed.ascending_nil
  | lists => exact Keyed.ascending_nil
  | void => exact Keyed.ascending_nil
  | tables _ hascending _ => exact hascending

/-- A table with entries, laid over both. -/
theorem of_entries {upper : List (String × Setting)} (hupper : upper ≠ [])
    (hascending : Keyed.Ascending alone.entries) (hsubset : alone.names ⊆ result.names) :
    Covers lower (overlay (.table upper) alone) (overlay (.table upper) result) := by
  rw [overlay, overlay]
  refine .tables ?_ (ascending_overlayEntries hascending) fun name hname => ?_
  · intro hnil
    obtain ⟨⟨name, value⟩, rest, rfl⟩ := List.exists_cons_of_ne_nil hupper
    have hmem : name ∈ (overlayEntries ((name, value) :: rest) alone.entries).map Prod.fst :=
      mem_names_overlayEntries.2 (.inl (by simp))
    rw [hnil] at hmem
    exact absurd hmem List.not_mem_nil
  · rw [mem_names_overlayEntries] at hname ⊢
    exact hname.imp_right (hsubset ·)

/-- A table with one name more, made of both. -/
theorem of_name {f : Setting → Setting} {name : String} {path : List Step}
    (hascending : Keyed.Ascending alone.entries) (hsubset : alone.names ⊆ result.names) :
    Covers lower (alter f (.name name :: path) alone) (alter f (.name name :: path) result) := by
  rw [alter, alter]
  refine .tables ?_ hascending.set fun k hk => ?_
  · intro hnil
    have hmem : name ∈ (Keyed.set name (alter f path (entry name alone.entries))
        alone.entries).map Prod.fst := Keyed.mem_names_set.2 (.inl rfl)
    rw [hnil] at hmem
    exact absurd hmem List.not_mem_nil
  · rw [Keyed.mem_names_set] at hk ⊢
    exact hk.imp_right (hsubset ·)

/-- What is laid over nothing, laid over something. -/
theorem start (lower v : Setting) (path : List Step) :
    Covers lower (alter v.overlay path .nothing) (alter v.overlay path lower) := by
  cases path with
  | nil =>
    cases v with
    | table upper =>
      cases upper with
      | nil => exact .void (.inl rfl)
      | cons head rest => exact of_entries (by simp) Keyed.ascending_nil (List.nil_subset _)
    | list items => exact .lists items items
    | _ => exact .single rfl nofun
  | cons step path =>
    cases step with
    | name name => exact of_name Keyed.ascending_nil (List.nil_subset _)
    | place place => exact .lists _ _

/-- What is laid over both. -/
theorem alter (h : Covers lower alone result) (v : Setting) (path : List Step) :
    Covers lower (alter v.overlay path alone) (alter v.overlay path result) := by
  cases path with
  | nil =>
    cases v with
    | table upper =>
      cases upper with
      | nil =>
        cases h with
        | single hnone _ =>
          rw [Setting.alter, overlay, overlayEntries, hnone]
          exact .void (.inr rfl)
        | lists _ _ => exact .void (.inr rfl)
        | void hentries => exact .void hentries
        | tables hsome hascending hsubset => exact .tables hsome hascending hsubset
      | cons head rest => exact of_entries (by simp) h.ascending h.names_subset
    | list items => exact .lists items items
    | _ => exact .single rfl nofun
  | cons step path =>
    cases step with
    | name name => exact of_name h.ascending h.names_subset
    | place place => exact .lists _ _

end Covers

/-- What becomes of what is found somewhere, given what would be found there without the lower
sources. -/
def Over (lower alone result : Option Setting) : Prop :=
  match alone with
  | none => result = lower
  | some a => ∃ r, result = some r ∧ Covers (lower.getD .nothing) a r

namespace Over

variable {lower alone result : Option Setting}

theorem alter (h : Over lower alone result) (v : Setting) (path : List Step) :
    Over lower (some (alter v.overlay path (alone.getD .nothing)))
      (some (alter v.overlay path (result.getD .nothing))) := by
  cases alone with
  | none =>
    obtain rfl : result = lower := h
    exact ⟨_, rfl, .start _ v path⟩
  | some a =>
    obtain ⟨r, rfl, hcovers⟩ := h
    exact ⟨_, rfl, hcovers.alter v path⟩

/-- Two tables with the same entries laid over them. -/
theorem overlayEntries {upper entries entries' : List (String × Setting)} {name : String}
    (hentries : Keyed.Ascending entries) (hentries' : Keyed.Ascending entries')
    (h : Over lower (Keyed.get? name entries) (Keyed.get? name entries')) :
    Over lower (Keyed.get? name (overlayEntries upper entries))
      (Keyed.get? name (Setting.overlayEntries upper entries')) := by
  induction upper generalizing entries entries' with
  | nil => rwa [Setting.overlayEntries, Setting.overlayEntries]
  | cons head rest ih =>
    obtain ⟨name', value⟩ := head
    rw [Setting.overlayEntries, Setting.overlayEntries]
    refine ih hentries.set hentries'.set ?_
    rw [Keyed.get?_set hentries, Keyed.get?_set hentries']
    by_cases hname : name = name'
    · subst hname
      rw [if_pos rfl, if_pos rfl]
      exact h.alter value []
    · rwa [if_neg hname, if_neg hname]

/-- The entries of a table, if a table is made of nothing. -/
theorem entries {s v : Setting} {path : List Step} {made : List (String × Setting)}
    (hs : Keyed.Ascending s.entries) (hmade : Setting.alter v.overlay path .nothing = .table made)
    (name : String) :
    Over (Keyed.get? name s.entries) (Keyed.get? name made)
      (Keyed.get? name (Setting.alter v.overlay path s).entries) := by
  obtain rfl : (Setting.alter v.overlay path .nothing).entries = made := by rw [hmade]; rfl
  cases path with
  | nil =>
    cases v with
    | table upper => exact .overlayEntries Keyed.ascending_nil hs rfl
    | _ => exact absurd hmade nofun
  | cons step path =>
    cases step with
    | place place => exact absurd hmade nofun
    | name name' =>
      show Over _ (Keyed.get? name (Keyed.set name' _ []))
        (Keyed.get? name (Keyed.set name' _ s.entries))
      rw [Keyed.get?_set Keyed.ascending_nil, Keyed.get?_set hs]
      by_cases hname : name = name'
      · subst hname
        rw [if_pos rfl, if_pos rfl]
        have hstart : Over (Keyed.get? name s.entries) none (Keyed.get? name s.entries) := rfl
        exact hstart.alter v path
      · rw [if_neg hname, if_neg hname]
        exact rfl

end Over

/-! ## Entries of a source

An entry has a key, which is read as a path, and a value that is put there. At the top it changes a
single name (`get?_assign`), and tables on the way are made where they are missing. -/

/-- A path that begins with a point begins with a name. -/
theorem exists_name_of_readSteps? {fuel : Nat} {cs : List Char} {path : List Step}
    (h : readSteps? fuel ('.' :: cs) = some path) : ∃ name rest, path = .name name :: rest := by
  cases fuel with
  | zero => exact absurd h nofun
  | succ fuel =>
    simp only [readSteps?] at h
    split at h
    · exact absurd h nofun
    · obtain ⟨rest, -, rfl⟩ := Option.map_eq_some_iff.1 h
      exact ⟨_, rest, rfl⟩

/-- The first step of a key is a name. -/
theorem exists_pathOf_eq_cons (key : String) : ∃ name path, pathOf key = .name name :: path := by
  unfold pathOf
  split
  · exact ⟨key, [], rfl⟩
  · cases hsteps : readSteps? (key.length + 1) ('.' :: key.toList) with
    | none => exact ⟨key, [], rfl⟩
    | some path => exact exists_name_of_readSteps? hsteps

/-- What an entry would make of nothing. -/
def made (e : String × Setting) : Setting := (table []).assign e.1 e.2

/-- Do the entries of a setting and of the tables in it ascend? -/
structure Tidy (s : Setting) : Prop where
  entries : Keyed.Ascending s.entries
  inner : ∀ name, Keyed.Ascending (entry name s.entries).entries

theorem tidy_empty : Tidy (.table []) := ⟨Keyed.ascending_nil, fun _ => Keyed.ascending_nil⟩

theorem at?_singleton (s : Setting) (name : String) : s.at? [name] = Keyed.get? name s.entries := by
  rw [at?]
  cases Keyed.get? name s.entries with
  | none => rfl
  | some inner => rfl

theorem at?_pair (s : Setting) (outer inner : String) :
    s.at? [outer, inner] =
      Keyed.get? inner ((Keyed.get? outer s.entries).getD .nothing).entries := by
  rw [at?]
  cases Keyed.get? outer s.entries with
  | none => rfl
  | some inner => exact at?_singleton inner _

/-- An entry changes one setting at the top. -/
theorem get?_assign {s : Setting} {e : String × Setting} {name : String} {path : List Step}
    (h : Keyed.Ascending s.entries) (hpath : pathOf e.1 = .name name :: path) (other : String) :
    Keyed.get? other (s.assign e.1 e.2).entries =
      if other = name then some (alter e.2.overlay path (entry name s.entries))
      else Keyed.get? other s.entries := by
  rw [assign, hpath]
  exact Keyed.get?_set h name other _

theorem Tidy.assign {s : Setting} (h : Tidy s) (e : String × Setting) :
    Tidy (s.assign e.1 e.2) where
  entries := ascending_alter _ h.entries
  inner other := by
    obtain ⟨name, path, hpath⟩ := exists_pathOf_eq_cons e.1
    rw [entry, get?_assign h.entries hpath]
    by_cases hother : other = name
    · rw [if_pos hother]
      exact ascending_alter path (h.inner name)
    · rw [if_neg hother]
      exact h.inner other

namespace Over

variable {s : Setting} {e : String × Setting}

theorem assign_top (hs : Keyed.Ascending s.entries) (e : String × Setting) (name : String) :
    Over (s.at? [name]) ((made e).at? [name]) ((s.assign e.1 e.2).at? [name]) := by
  obtain ⟨first, path, hpath⟩ := exists_pathOf_eq_cons e.1
  rw [at?_singleton, at?_singleton, at?_singleton, made, get?_assign hs hpath,
    get?_assign (s := .table []) Keyed.ascending_nil hpath]
  by_cases hname : name = first
  · subst hname
    rw [if_pos rfl, if_pos rfl]
    have hstart : Over (Keyed.get? name s.entries) none (Keyed.get? name s.entries) := rfl
    exact hstart.alter e.2 path
  · rw [if_neg hname, if_neg hname]
    exact rfl

/-- In a section, if the entry leaves it a table. -/
theorem assign_inner (hs : Tidy s) {outer : String}
    (htable : ∀ t, (made e).at? [outer] = some t → ∃ entries, t = .table entries) (name : String) :
    Over (s.at? [outer, name]) ((made e).at? [outer, name]) ((s.assign e.1 e.2).at? [outer, name]) := by
  obtain ⟨first, path, hpath⟩ := exists_pathOf_eq_cons e.1
  have hmade := get?_assign (s := .table []) Keyed.ascending_nil hpath outer
  have hresult := get?_assign hs.entries hpath outer
  rw [at?_singleton, made, hmade] at htable
  rw [at?_pair, at?_pair, at?_pair, made]
  by_cases houter : outer = first
  · subst houter
    rw [if_pos rfl] at htable hmade hresult
    obtain ⟨entries, hentries⟩ := htable _ rfl
    have hover := Over.entries (hs.inner outer) hentries name
    rw [hmade, hresult, hentries]
    exact hover
  · rw [if_neg houter] at hmade hresult
    rw [hmade, hresult]
    exact rfl

end Over

/-! ## What is said at a path

A table without entries says nothing: a file may have one without meaning to set anything. Single
values are read by converters that know nothing of lists and see through a table with one name
(`Plain`), and for these it is enough to know what covers what. -/

/-- Does it say anything, other than a table without entries? -/
def speaks : Setting → Bool
  | .table [] => false
  | _ => true

/-- What an entry says at a path. -/
def said (path : List String) (e : String × Setting) : Option Setting :=
  ((made e).at? path).filter speaks

/-- What a source says at a path: what the last entry says that says something. -/
def saidBy (path : List String) (source : List (String × Setting)) : Option Setting :=
  (source.filterMap (said path)).getLast?

/-- A way to read single values: lists are none, and of a table only a single name is read. -/
structure Plain {ε α : Type} (read : Setting → Except ε α) : Prop where
  list : ∀ items a, read (.list items) ≠ .ok a
  table : ∀ {entries a}, read (.table entries) = .ok a →
    ∃ name value, entries = [(name, value)] ∧ ∀ value', read (.table [(name, value')]) = .ok a

variable {ε α : Type} {convert : Setting → Except ε α} {a d : α}

/-- What can be read of the result is what was laid over the rest. -/
theorem Covers.read {lower alone result : Setting} (hplain : Plain convert)
    (h : Covers lower alone result) (hspeaks : alone.speaks) (hresult : convert result = .ok a) :
    convert alone = .ok a := by
  cases h with
  | single => exact hresult
  | lists items items' => exact absurd hresult (hplain.list items' a)
  | void => exact absurd hspeaks nofun
  | @tables entries entries' hsome hascending hsubset =>
    obtain ⟨name, value, rfl, hname⟩ := hplain.table hresult
    -- All names are the one that the result has, and no name is there twice.
    have hnames : ∀ e ∈ entries, e.1 = name := fun e he =>
      List.mem_singleton.1 (hsubset (List.mem_map_of_mem he))
    match entries with
    | [] => exact absurd rfl hsome
    | [(name', value')] =>
      obtain rfl : name' = name := hnames (name', value') List.mem_cons_self
      exact hname value'
    | (name', value') :: (name'', value'') :: rest =>
      have hsame : name' = name'' :=
        (hnames (name', value') (by simp)).trans (hnames (name'', value'') (by simp)).symm
      have hlt := (List.pairwise_cons.1 hascending).1 (name'', value'') List.mem_cons_self
      exact absurd hsame (Keyed.ne_of_compare_lt hlt)

/-- A table without entries leaves what has entries, and takes the place of anything else. -/
theorem Covers.of_void {lower result : Setting} (h : Covers lower (.table []) result) :
    ∃ entries, result = .table entries ∧ (entries = lower.entries ∨ entries = []) := by
  cases h with
  | single _ hno => exact absurd rfl (hno [])
  | void hentries => exact ⟨_, rfl, hentries⟩
  | tables hsome _ _ => exact absurd rfl hsome

theorem eq_of_not_speaks {s : Setting} (h : ¬ s.speaks) : s = .table [] := by
  unfold speaks at h
  split at h
  · rfl
  · exact absurd rfl h

/-- If nothing is said, what can be read is what was there before. -/
theorem Over.read {lower alone result : Option Setting} (hplain : Plain convert)
    (h : Over lower alone result) (hresult : result.elim (.ok d) convert = .ok a) :
    ((alone.filter speaks).or lower).elim (.ok d) convert = .ok a := by
  cases alone with
  | none =>
    obtain rfl : result = lower := h
    exact hresult
  | some s =>
    obtain ⟨r, rfl, hcovers⟩ := h
    by_cases hspeaks : s.speaks
    · rw [Option.filter_some_pos hspeaks]
      exact hcovers.read hplain hspeaks hresult
    · obtain rfl := eq_of_not_speaks hspeaks
      obtain ⟨entries, rfl, hentries⟩ := hcovers.of_void
      obtain ⟨name, value, rfl, -⟩ := hplain.table hresult
      -- Something can be read, so it was there before.
      rcases hentries with hentries | hnil
      · cases lower with
        | none => exact absurd hentries nofun
        | some inner =>
          cases inner with
          | table _ =>
            obtain rfl := hentries
            exact hresult
          | _ => exact absurd hentries nofun
      · exact absurd hnil nofun

/-! ## All entries

The sources are one long list of entries, from the lowest to the highest, and the theorem is an
induction on that list. Each entry must leave the tables on the path tables (`Leaves`), since a
single value in the place of a whole section would take all its settings away. -/

/-- Is this a path to a single setting, which is at the top or in a table that the entry leaves a
table? -/
inductive Leaves (e : String × Setting) : (path : List String) → Prop
  | top (name : String) : Leaves e [name]
  | inner {outer : String} (name : String) :
      (∀ t, (made e).at? [outer] = some t → ∃ entries, t = .table entries) → Leaves e [outer, name]

theorem Over.assign {s : Setting} {e : String × Setting} {path : List String} (hs : Tidy s)
    (h : Leaves e path) : Over (s.at? path) ((made e).at? path) ((s.assign e.1 e.2).at? path) := by
  cases h with
  | top name => exact .assign_top hs.entries e name
  | inner name htable => exact .assign_inner hs htable name

theorem saidBy_cons (path : List String) (e : String × Setting) (rest : List (String × Setting)) :
    saidBy path (e :: rest) = (saidBy path rest).or (said path e) := by
  rw [saidBy, saidBy, List.filterMap_cons]
  cases said path e with
  | none => simp
  | some s =>
    rw [List.getLast?_cons]
    cases (rest.filterMap (said path)).getLast? with
    | none => rfl
    | some v => rfl

theorem saidBy_append (path : List String) (source source' : List (String × Setting)) :
    saidBy path (source ++ source') = (saidBy path source').or (saidBy path source) := by
  rw [saidBy, List.filterMap_append, List.getLast?_append]
  rfl

/-- Of several sources the last one counts that says something. -/
theorem saidBy_flatten (path : List String) (sources : List (List (String × Setting))) :
    saidBy path sources.flatten = sources.reverse.findSome? (saidBy path) := by
  induction sources with
  | nil => rfl
  | cons source rest ih =>
    rw [List.flatten_cons, saidBy_append, ih, List.reverse_cons, List.findSome?_append]
    simp

/-- If but one entry says something, that is what the source says. -/
theorem saidBy_of_only {path : List String} {source : List (String × Setting)} {e : String × Setting}
    {s : Setting} (he : e ∈ source) (hsaid : said path e = some s)
    (honly : ∀ e' ∈ source, said path e' ≠ none → e' = e) : saidBy path source = some s := by
  have hall : ∀ s' ∈ source.filterMap (said path), s' = s := by
    intro s' hs'
    obtain ⟨e', he', hsaid'⟩ := List.mem_filterMap.1 hs'
    obtain rfl := honly e' he' (by rw [hsaid']; exact nofun)
    exact Option.some.inj (hsaid'.symm.trans hsaid)
  have hmem : s ∈ source.filterMap (said path) := List.mem_filterMap.2 ⟨e, he, hsaid⟩
  have hlast := List.getLast?_eq_some_getLast (List.ne_nil_of_mem hmem)
  rw [saidBy, hlast, hall _ (List.getLast_mem _)]

/-- To lay sources over each other is to lay all their entries over each other. -/
theorem foldl_join (s : Setting) (sources : List (List (String × Setting))) :
    sources.foldl join s = s.join sources.flatten := by
  unfold join
  exact List.foldl_flatten.symm

/-- What can be read at a path when a source was laid over what there is: what the source says
there, or else what was there before. -/
theorem read_join {path : List String} (hplain : Plain convert) {source : List (String × Setting)}
    {s : Setting} (hs : Tidy s) (h : ∀ e ∈ source, Leaves e path)
    (hresult : ((s.join source).at? path).elim (.ok d) convert = .ok a) :
    ((saidBy path source).or (s.at? path)).elim (.ok d) convert = .ok a := by
  induction source generalizing s with
  | nil => exact hresult
  | cons e rest ih =>
    have hrest := ih (hs.assign e) (fun e' he' => h e' (List.mem_cons_of_mem e he')) hresult
    rw [saidBy_cons, Option.or_assoc]
    cases hsaid : saidBy path rest with
    | some v =>
      rw [hsaid] at hrest
      exact hrest
    | none =>
      rw [hsaid, Option.none_or] at hrest
      exact (Over.assign hs (h e List.mem_cons_self)).read hplain hrest

/-- What is made of a table is a table. -/
theorem exists_join_eq_table (source entries : List (String × Setting)) :
    ∃ entries', (table entries).join source = .table entries' := by
  induction source generalizing entries with
  | nil => exact ⟨entries, rfl⟩
  | cons e rest ih =>
    obtain ⟨name, path, hpath⟩ := exists_pathOf_eq_cons e.1
    obtain ⟨entries', hrest⟩ := ih
      (Keyed.set name (alter e.2.overlay path (entry name entries)) entries)
    refine ⟨entries', ?_⟩
    rw [join, List.foldl_cons, assign, hpath]
    exact hrest

/-- What is a table stays one, if all entries leave it one. -/
theorem table_join {outer : String} {source : List (String × Setting)} {s : Setting} (hs : Tidy s)
    (h : ∀ e ∈ source, ∀ t, (made e).at? [outer] = some t → ∃ entries, t = .table entries)
    (hbefore : ∀ t, s.at? [outer] = some t → ∃ entries, t = .table entries) :
    ∀ t, (s.join source).at? [outer] = some t → ∃ entries, t = .table entries := by
  induction source generalizing s with
  | nil => exact hbefore
  | cons e rest ih =>
    refine ih (hs.assign e) (fun e' he' => h e' (List.mem_cons_of_mem e he')) fun t ht => ?_
    have hover := Over.assign_top hs.entries e outer
    rw [ht] at hover
    cases hmade : (made e).at? [outer] with
    | none =>
      rw [hmade] at hover
      exact hbefore t hover.symm
    | some a =>
      rw [hmade] at hover
      obtain ⟨r, hr, hcovers⟩ := hover
      obtain rfl := Option.some.inj hr
      obtain ⟨entries, rfl⟩ := h e List.mem_cons_self a hmade
      cases hcovers with
      | single _ hno => exact absurd rfl (hno entries)
      | void _ => exact ⟨_, rfl⟩
      | tables _ _ _ => exact ⟨_, rfl⟩

end Setting
end RewardDesk
