import Mathlib.Data.List.DropRight
import TypedQuery.Proofs.Data.Sorted
import TypedQuery.Tracker

/-! Observations over a history of calls on a tracker and its clones. The numbers that an
observation compares tell exactly whether one of its tables was notified since it was made or last
refreshed. -/

namespace TypedQuery

namespace Tracking

/-- One call on a tracker, on a clone of it, or on an observation. -/
inductive Operation where
  | clone (tracker copy : String)
  | notify (tracker table : String)
  | observe (tracker observation : String) (tables : List String)
  | observeQuery (tracker observation : String) (primary related : List String)
  | refresh (observation : String)
  /-- The question whether the observation is stale, with its answer. -/
  | isStale (observation : String) (answer : Bool)

namespace Operation

/-- The tables to be watched, if the call makes an observation of this name. -/
def watched? (name : String) : Operation → Option (List String)
  | observe _ observation tables => if observation = name then some tables else none
  | observeQuery _ observation primary related =>
    if observation = name then some (primary ++ related) else none
  | _ => none

/-- Whether the call makes or refreshes the observation of this name. -/
def settles (name : String) : Operation → Bool
  | observe _ observation _ | observeQuery _ observation _ _ | refresh observation =>
    observation = name
  | _ => false

def notifies (table : String) : Operation → Bool
  | notify _ notified => notified = table
  | _ => false

end Operation

/-- A call can be made on trackers and observations that there are. -/
inductive Step (s : Tracking) : Operation → Tracking → Prop where
  | clone {tracker copy : String} {history : Nat}
      (known : s.trackers.lookup tracker = some history) :
      Step s (.clone tracker copy) (s.clone tracker copy)
  | notify {tracker table : String} {history : Nat}
      (known : s.trackers.lookup tracker = some history) :
      Step s (.notify tracker table) (s.notify tracker table)
  | observe {tracker name : String} {tables : List String} {history : Nat}
      (known : s.trackers.lookup tracker = some history) :
      Step s (.observe tracker name tables) (s.observe tracker name tables)
  | observeQuery {tracker name : String} {primary related : List String} {history : Nat}
      (known : s.trackers.lookup tracker = some history) :
      Step s (.observeQuery tracker name primary related)
        (s.observeQuery tracker name primary related)
  | refresh {name : String} {o : Observation} (known : s.observation? name = some o) :
      Step s (.refresh name) (s.refresh name)
  | isStale {name : String} {o : Observation} {answer : Bool}
      (known : s.observation? name = some o) (answered : s.isStale o = answer) :
      Step s (.isStale name answer) s

/-- The calls lead, one after the other, from a new tracker to the state. -/
inductive Reaches (first : String) : List Operation → Tracking → Prop where
  | start : Reaches first [] (start first)
  | step {calls : List Operation} {call : Operation} {s next : Tracking}
      (prior : Reaches first calls s) (last : Step s call next) :
      Reaches first (calls ++ [call]) next

section History

variable (name : String) (calls : List Operation)

/-- The tables that were given to the latest observation of this name. -/
def watched : List String := calls.foldl (fun tables call => (call.watched? name).getD tables) []

/-- The calls up to the one that made or last refreshed the observation of this name. -/
def settled : List Operation := calls.rdropWhile fun call => !call.settles name

/-- The calls since the observation of this name was made or last refreshed, whichever is later. -/
def sinceSettled : List Operation := calls.rtakeWhile fun call => !call.settles name

/-- How often the table was notified. -/
def notifications (table : String) (calls : List Operation) : Nat :=
  calls.countP (·.notifies table)

@[simp]
theorem watched_concat (call : Operation) :
    watched name (calls ++ [call]) = (call.watched? name).getD (watched name calls) := by
  simp [watched]

@[simp]
theorem notifications_concat (table : String) (call : Operation) :
    notifications table (calls ++ [call]) =
      notifications table calls + if call.notifies table then 1 else 0 := by
  simp [notifications, List.countP_append, List.countP_singleton]

/-- The calls before an observation was last made or refreshed are settled by it. -/
theorem settled_concat (call : Operation) :
    settled name (calls ++ [call]) = if call.settles name then calls ++ [call]
      else settled name calls := by
  rw [settled, List.rdropWhile_concat]
  cases h : call.settles name <;> simp [settled]

/-- A table has more notifications than were settled exactly if it was notified since then. -/
theorem notifications_settled_ne_iff (table : String) :
    notifications table calls ≠ notifications table (settled name calls) ↔
      ∃ call ∈ sinceSettled name calls, call.notifies table = true := by
  have hSplit : settled name calls ++ sinceSettled name calls = calls :=
    List.rdropWhile_append_rtakeWhile
  have hCount : notifications table calls =
      notifications table (settled name calls) + notifications table (sinceSettled name calls) := by
    rw [notifications, ← hSplit, List.countP_append]
    simp only [hSplit, notifications]
  rw [hCount, ← List.countP_pos_iff]
  change _ ↔ 0 < notifications table (sinceSettled name calls)
  omega

/-- Notifications only add up. -/
theorem notifications_settled_le (table : String) :
    notifications table (settled name calls) ≤ notifications table calls :=
  (List.rdropWhile_prefix _ _).sublist.countP_le

/-- Some table of the observation was notified since it was made or last refreshed. -/
def Modified : Prop :=
  ∃ table ∈ watched name calls, ∃ call ∈ sinceSettled name calls, call.notifies table = true

end History

/-- A call that leaves an observation as it is makes none of the same name. -/
theorem Operation.watched?_eq_none {name : String} {call : Operation}
    (h : call.settles name = false) : call.watched? name = none := by
  cases call <;> simp_all [settles, watched?]

end Tracking

namespace Versions

variable {versions : Versions}

/-- A notification is counted for its table, and for no other. -/
theorem version_notify (h : Sorted.Ascending (versions.map Prod.fst)) (notified table : String) :
    (versions.notify notified).version table =
      versions.version table + if notified = table then 1 else 0 := by
  rw [version, version, notify]
  by_cases hSame : notified = table
  · subst hSame
    rw [Sorted.find?_alter_self h, if_pos rfl, Option.getD_some]
  · rw [Sorted.find?_alter_of_ne h (Ne.symm hSame), if_neg hSame, UInt64.add_zero]

end Versions

namespace Tracking

/-- What an observation holds after some calls: its tables, with the numbers that they had when it
was made or last refreshed. -/
structure Watches (name : String) (calls : List Operation) (o : Observation) : Prop where
  history : o.history = 0
  tables : o.tables = Sorted.ofList (watched name calls)
  seen : o.seen = o.tables.map fun table =>
    UInt64.ofNat (notifications table (settled name calls))

/-- What a tracker and its clones hold after some calls. They share one history, which numbers the
notifications of each table. -/
structure Tracks (calls : List Operation) (s : Tracking) : Prop where
  trackers : ∀ tracker history, s.trackers.lookup tracker = some history → history = 0
  histories : s.histories = [s.versions 0]
  ascending : Sorted.Ascending ((s.versions 0).map Prod.fst)
  version : ∀ table, (s.versions 0).version table = UInt64.ofNat (notifications table calls)
  observations : ∀ name o, s.observation? name = some o → Watches name calls o

section Steps

variable {calls : List Operation} {call : Operation} {s next : Tracking} {name : String}
  {o : Observation}

/-- An observation holds the same until it is made anew or refreshed. -/
theorem Watches.later (h : Watches name calls o) (hCall : call.settles name = false) :
    Watches name (calls ++ [call]) o := by
  refine ⟨h.history, ?_, ?_⟩
  · rw [watched_concat, Operation.watched?_eq_none hCall, Option.getD_none, h.tables]
  · rw [settled_concat, hCall, h.seen]
    rfl

/-- A call that notifies no table leaves the numbers as they are. -/
theorem Tracks.version_later (h : Tracks calls s) (hCall : ∀ table, call.notifies table = false)
    (table : String) :
    (s.versions 0).version table = UInt64.ofNat (notifications table (calls ++ [call])) := by
  rw [notifications_concat, hCall, h.version]
  rfl

/-- The present numbers are those of all calls. -/
theorem Tracks.seen_eq (h : Tracks calls s) (tables : List String) :
    (s.versions 0).seen tables = tables.map fun table =>
      UInt64.ofNat (notifications table calls) :=
  List.map_congr_left fun table _ => h.version table

/-- Without calls there is nothing to be told. -/
theorem tracks_start (first : String) : Tracks [] (start first) := by
  have hNone (name : String) (o : Observation) : (start first).observation? name ≠ some o := by
    simp [start, observation?]
  refine ⟨fun tracker history hKnown => ?_, rfl, Sorted.ascending_nil, fun _ => rfl,
    fun name o hKnown => absurd hKnown (hNone name o)⟩
  rw [start, List.lookup_cons] at hKnown
  split at hKnown
  · exact (Option.some.inj hKnown).symm
  · cases hKnown

/-- A clone shares the counters of its tracker. -/
theorem Tracks.clone {tracker copy : String} {history : Nat} (h : Tracks calls s)
    (hKnown : s.trackers.lookup tracker = some history) :
    Tracks (calls ++ [.clone tracker copy]) (s.clone tracker copy) := by
  have hClone : s.clone tracker copy = { s with trackers := (copy, history) :: s.trackers } := by
    rw [Tracking.clone, hKnown]
  rw [hClone]
  refine ⟨fun other found hFound => ?_, h.histories, h.ascending, h.version_later fun _ => rfl,
    fun name o hFound => (h.observations name o hFound).later rfl⟩
  rw [List.lookup_cons] at hFound
  split at hFound
  · rw [← Option.some.inj hFound]
    exact h.trackers tracker history hKnown
  · exact h.trackers other found hFound

/-- A notification counts for every observation of its table. -/
theorem Tracks.notify {tracker table : String} {history : Nat} (h : Tracks calls s)
    (hKnown : s.trackers.lookup tracker = some history) :
    Tracks (calls ++ [.notify tracker table]) (s.notify tracker table) := by
  obtain rfl := h.trackers tracker history hKnown
  have hNotify : s.notify tracker table =
      { s with histories := [(s.versions 0).notify table] } := by
    rw [Tracking.notify, hKnown, h.histories]
    rfl
  rw [hNotify]
  refine ⟨h.trackers, rfl, Sorted.ascending_keys_alter h.ascending, fun other => ?_,
    fun name o hFound => (h.observations name o hFound).later rfl⟩
  change ((s.versions 0).notify table).version other = _
  rw [Versions.version_notify h.ascending, notifications_concat, h.version, UInt64.ofNat_add]
  by_cases hSame : table = other <;> simp [Operation.notifies, hSame]

/-- An observation that is made or refreshed holds the present numbers; the others stay. -/
theorem Tracks.settle {tables : List String} (h : Tracks calls s)
    (hTables : tables = Sorted.ofList (watched name (calls ++ [call])))
    (hSettles : ∀ other, call.settles other = decide (name = other))
    (hCall : ∀ table, call.notifies table = false) :
    Tracks (calls ++ [call]) { s with
      observations := (name, ⟨0, tables, (s.versions 0).seen tables⟩) :: s.observations } := by
  refine ⟨h.trackers, h.histories, h.ascending, h.version_later hCall, fun other o hFound => ?_⟩
  rw [observation?, List.lookup_cons] at hFound
  split at hFound
  next hSame =>
    obtain rfl := eq_of_beq hSame
    obtain rfl := Option.some.inj hFound
    refine ⟨rfl, hTables, ?_⟩
    rw [settled_concat, hSettles, decide_eq_true rfl, if_pos rfl]
    exact List.map_congr_left fun table _ => h.version_later hCall table
  next hOther =>
    have hNot : call.settles other = false := by
      rw [hSettles, decide_eq_false_iff_not]
      rintro rfl
      simp at hOther
    exact (h.observations other o hFound).later hNot

/-- An observation remembers the counters of its tables as they are. -/
theorem Tracks.observe {tracker : String} {tables : List String} {history : Nat}
    (h : Tracks calls s) (hKnown : s.trackers.lookup tracker = some history)
    (hTables : call.watched? name = some tables)
    (hSettles : ∀ other, call.settles other = decide (name = other))
    (hCall : ∀ table, call.notifies table = false) :
    Tracks (calls ++ [call]) (s.observe tracker name tables) := by
  obtain rfl := h.trackers tracker history hKnown
  rw [Tracking.observe, hKnown]
  refine h.settle ?_ hSettles hCall
  rw [watched_concat, hTables, Option.getD_some]

/-- A refresh remembers them anew. -/
theorem Tracks.refresh (h : Tracks calls s) (hKnown : s.observation? name = some o) :
    Tracks (calls ++ [.refresh name]) (s.refresh name) := by
  obtain ⟨hHistory, hTables, -⟩ := h.observations name o hKnown
  rw [Tracking.refresh, hKnown]
  obtain ⟨history, tables, seen⟩ := o
  obtain rfl : history = 0 := hHistory
  exact h.settle (by rw [watched_concat]; exact hTables) (fun _ => rfl) fun _ => rfl

/-- The numbers of an observation tell whether one of its tables was notified. No number has come
round, because a table with that many notifications would have to be excluded. -/
theorem Tracks.isStale_iff (h : Tracks calls s) (hKnown : s.observation? name = some o)
    (hBound : ∀ table, notifications table calls < UInt64.size) :
    s.isStale o = true ↔ Modified name calls := by
  obtain ⟨hHistory, hTables, hSeen⟩ := h.observations name o hKnown
  have hNumber (table : String) :
      UInt64.ofNat (notifications table calls) ≠
          UInt64.ofNat (notifications table (settled name calls)) ↔
        ∃ call ∈ sinceSettled name calls, call.notifies table = true := by
    have hLe := notifications_settled_le name calls table
    have hNow := hBound table
    rw [← notifications_settled_ne_iff, Ne, UInt64.ofNat_eq_iff_mod_eq_toNat,
      UInt64.toNat_ofNat_of_lt' (hLe.trans_lt hNow), Nat.mod_eq_of_lt hNow]
  have hDiffer : s.isStale o = true ↔ ∃ table ∈ o.tables,
      UInt64.ofNat (notifications table calls) ≠
        UInt64.ofNat (notifications table (settled name calls)) := by
    rw [isStale, decide_eq_true_iff, hHistory, h.seen_eq, hSeen, Ne, List.map_inj_left]
    simp only [not_forall, exists_prop, Ne]
  rw [hDiffer]
  simp only [hNumber, hTables, Sorted.mem_ofList, Modified]

/-- Every call keeps track. -/
theorem Tracks.step (h : Tracks calls s) (hStep : Step s call next) :
    Tracks (calls ++ [call]) next := by
  cases hStep with
  | clone known => exact h.clone known
  | notify known => exact h.notify known
  | observe known =>
      exact h.observe known (by simp [Operation.watched?]) (fun _ => rfl) fun _ => rfl
  | observeQuery known =>
      exact h.observe known (by simp [Operation.watched?]) (fun _ => rfl) fun _ => rfl
  | refresh known => exact h.refresh known
  | isStale known answered =>
      exact ⟨h.trackers, h.histories, h.ascending, h.version_later fun _ => rfl,
        fun name o hFound => (h.observations name o hFound).later rfl⟩

/-- An observation stays as it is under a call that neither makes it nor refreshes it. -/
theorem Step.observation?_eq (h : Step s call next) (hCall : call.settles name = false) :
    next.observation? name = s.observation? name := by
  have hOther {made : String} {o : Observation} (hMade : decide (made = name) = false) :
      List.lookup name ((made, o) :: s.observations) = List.lookup name s.observations := by
    rw [List.lookup_cons, beq_eq_false_iff_ne.mpr (Ne.symm (of_decide_eq_false hMade))]
  cases h with
  | clone known => rw [Tracking.clone, known]; rfl
  | notify known => rw [Tracking.notify, known]; rfl
  | observe known => rw [Tracking.observe, known]; exact hOther hCall
  | observeQuery known => rw [Tracking.observeQuery, Tracking.observe, known]; exact hOther hCall
  | refresh known => rw [Tracking.refresh, known]; exact hOther hCall
  | isStale known answered => rfl

/-- Nor does its staleness change, unless one of its tables is notified. -/
theorem Tracks.isStale_step (h : Tracks calls s) (hStep : Step s call next)
    (hKnown : s.observation? name = some o)
    (hCall : ∀ table ∈ o.tables, call.notifies table = false) :
    next.isStale o = s.isStale o := by
  have hSame : (next.versions 0).seen o.tables = (s.versions 0).seen o.tables := by
    rw [h.seen_eq, (h.step hStep).seen_eq]
    refine List.map_congr_left fun table hTable => ?_
    rw [notifications_concat, hCall table hTable]
    rfl
  rw [isStale, isStale, (h.observations name o hKnown).history, hSame]

end Steps

variable {first : String} {calls : List Operation} {s : Tracking}

/-- So does every history of calls. -/
theorem Reaches.tracks (h : Reaches first calls s) : Tracks calls s := by
  induction h with
  | start => exact tracks_start first
  | step _ last ih => exact ih.step last

/-- Every call of a history was made in the state that the calls before it lead to. -/
theorem Reaches.step_of_mem (h : Reaches first calls s) {before after : List Operation}
    {call : Operation} (hCalls : calls = before ++ call :: after) :
    ∃ earlier next, Reaches first before earlier ∧ Step earlier call next := by
  induction h generalizing after with
  | start => simp at hCalls
  | step prior last ih =>
      rcases after.eq_nil_or_concat with rfl | ⟨rest, final, rfl⟩
      · obtain ⟨rfl, hCall⟩ := List.append_inj' hCalls rfl
        obtain rfl := List.singleton_inj.mp hCall
        exact ⟨_, _, prior, last⟩
      · rw [List.concat_eq_append, ← List.cons_append, ← List.append_assoc] at hCalls
        exact ih (List.append_inj' hCalls rfl).1

/-- The tables of an observation are those given when it was made last. -/
theorem watched_eq {name : String} {tables : List String} {before after : List Operation}
    {call : Operation} (hMade : call.watched? name = some tables)
    (hLast : ∀ later ∈ after, later.watched? name = none) :
    watched name (before ++ call :: after) = tables := by
  induction after using List.reverseRecOn with
  | nil => rw [watched_concat, hMade, Option.getD_some]
  | append_singleton after later ih =>
      rw [← List.cons_append, ← List.append_assoc, watched_concat,
        hLast later (by simp), Option.getD_none]
      exact ih fun other hOther => hLast other (by simp [hOther])

/-- Whatever calls are made on a tracker, its clones and their observations, as long as no table is
notified so often that its number comes round: an observation is said to be stale exactly if one of
its tables was notified since it was made or last refreshed. Its tables are those it was made with,
for a query the primary and the related ones, and no call but its own and notifications of these
tables changes its staleness. -/
theorem Reaches.staleness_exact (h : Reaches first calls s)
    (hBound : ∀ table, notifications table calls < UInt64.size) :
    (∀ before name answer after, calls = before ++ .isStale name answer :: after →
      (answer = true ↔ Modified name before)) ∧
    ∀ name o, s.observation? name = some o →
      (s.isStale o = true ↔ Modified name calls) ∧
      Sorted.Ascending o.tables ∧
      (∀ table, table ∈ o.tables ↔ table ∈ watched name calls) ∧
      (∀ before tracker primary related after,
        calls = before ++ .observeQuery tracker name primary related :: after →
        (∀ later ∈ after, later.watched? name = none) →
        ∀ table, table ∈ o.tables ↔ table ∈ primary ∨ table ∈ related) ∧
      ∀ call next, Step s call next → call.settles name = false →
        (∀ table ∈ o.tables, call.notifies table = false) →
        next.observation? name = some o ∧ next.isStale o = s.isStale o := by
  refine ⟨fun before name answer after hCalls => ?_, fun name o hKnown => ?_⟩
  · obtain ⟨earlier, next, hEarlier, hAsked⟩ := h.step_of_mem hCalls
    have hFewer (table : String) : notifications table before < UInt64.size := by
      refine lt_of_le_of_lt ?_ (hBound table)
      rw [hCalls, notifications, notifications, List.countP_append]
      exact Nat.le_add_right _ _
    cases hAsked with
    | isStale known answered =>
        rw [← answered]
        exact hEarlier.tracks.isStale_iff known hFewer
  · have hTracks := h.tracks
    have hTables := (hTracks.observations name o hKnown).tables
    have hMem (table : String) : table ∈ o.tables ↔ table ∈ watched name calls := by
      rw [hTables, Sorted.mem_ofList]
    refine ⟨hTracks.isStale_iff hKnown hBound, ?_, hMem, ?_, ?_⟩
    · rw [hTables]
      exact Sorted.ascending_ofList _
    · intro before tracker primary related after hCalls hLast table
      have hMade : (Operation.observeQuery tracker name primary related).watched? name =
          some (primary ++ related) := by
        simp [Operation.watched?]
      rw [hMem, hCalls, watched_eq hMade hLast, List.mem_append]
    · intro call next hStep hOther hUnrelated
      exact ⟨(hStep.observation?_eq hOther).trans hKnown,
        hTracks.isStale_step hStep hKnown hUnrelated⟩

/-- A related table of one of two observations is notified through a clone. -/
def bookAdded : List Operation :=
  [.clone "main" "writer", .observeQuery "main" "authors" ["author"] ["book"],
    .observe "writer" "publishers" ["publisher"], .notify "writer" "book",
    .isStale "authors" true, .isStale "publishers" false, .refresh "authors",
    .isStale "authors" false]

theorem bookAdded_staleness_exact :
    ∃ s o, Reaches "main" bookAdded s ∧ s.observation? "authors" = some o ∧
      o.tables = ["author", "book"] ∧ Modified "authors" (bookAdded.take 4) ∧
      ¬ Modified "publishers" (bookAdded.take 5) ∧ ¬ Modified "authors" bookAdded := by
  have hReaches : Reaches "main" bookAdded _ :=
    (@Reaches.start "main").step (@Step.clone _ "main" "writer" _ rfl)
    |>.step (@Step.observeQuery _ "main" "authors" ["author"] ["book"] _ rfl)
    |>.step (@Step.observe _ "writer" "publishers" ["publisher"] _ rfl)
    |>.step (@Step.notify _ "writer" "book" _ rfl)
    |>.step (@Step.isStale _ "authors" _ _ rfl rfl)
    |>.step (@Step.isStale _ "publishers" _ _ rfl rfl)
    |>.step (@Step.refresh _ "authors" _ rfl)
    |>.step (@Step.isStale _ "authors" _ _ rfl rfl)
  have hBound (table : String) : notifications table bookAdded < UInt64.size :=
    List.countP_le_length.trans_lt (by decide)
  obtain ⟨hAnswers, hObservations⟩ := hReaches.staleness_exact hBound
  obtain ⟨hNow, -⟩ := hObservations "authors" _ rfl
  refine ⟨_, _, hReaches, rfl, by decide, ?_, ?_, ?_⟩
  · exact (hAnswers (bookAdded.take 4) "authors" true _ rfl).mp rfl
  · exact (hAnswers (bookAdded.take 5) "publishers" false _ rfl).not.mp Bool.false_ne_true
  · exact hNow.not.mp (by decide)

end Tracking

end TypedQuery
