import SafeLookup.Proofs.Session.Look
import SafeLookup.Proofs.Walk.Names

/-!
# Values That Lookups Cannot Tell Apart

A relation of values is a bisimulation (`Value.IsBisimulation`) if related values are the same
marker or no marker, and if they answer each name that is not reserved in the same way: after the
same questions, with related members or without one. Lookups along names cannot tell related values
apart. They put the same questions to both and leave the same records, and where one of them hits,
so does the other one, with a related value (`Value.walkNames_related`). What a session makes of
this is said once for all bisimulations (`Session.looksAlike`).

Two values are alike (`Value.Alike`) if they are related by some bisimulation. A name is answered by
the entry under it, wherever that stands, so tables are alike if under each name that is not
reserved they hold members that are alike (`Value.alike_table`). In particular the order of their
entries makes no difference (`Value.alike_table_of_perm`).

## Implementation notes

`Value.Alike` is a greatest fixed point, presented as the existence of a relation that relates the
two values. So there is nothing to unfold: to show that two values are alike, a bisimulation is
given.
-/

namespace SafeLookup

variable {R : Value → Value → Prop}

/-! ### Related answers -/

/-- Replies that bring related members, or the same one without a member. -/
inductive Reply.Related (R : Value → Value → Prop) : Reply → Reply → Prop
  | found {v w : Value} : R v w → Related R (.found v) (.found w)
  | absent : Related R .absent .absent
  | closed : Related R .closed .closed
  | raised (raised : Raised) : Related R (.raised raised) (.raised raised)

/-- Probes with related replies, after the same questions. -/
structure Probe.Related (R : Value → Value → Prop) (p p' : Probe) : Prop where
  reply : p.reply.Related R p'.reply
  ledger : p.ledger = p'.ledger

/-- Runs that come to related values, or end in the same way before. -/
inductive Progress.Related (R : Value → Value → Prop) : Progress → Progress → Prop
  | reached {v w : Value} (asked : List (ℕ × Access)) :
      R v w → Related R (.reached v asked) (.reached w asked)
  | ended (l : Lookup) : Related R (.ended l) (.ended l)

/-- Endings with hits of related values, or the same one without a hit. -/
inductive Ending.Related (R : Value → Value → Prop) : Ending → Ending → Prop
  | hit {v w : Value} : R v w → Related R (.hit v) (.hit w)
  | miss : Related R .miss .miss
  | escaped (e : Escape) : Related R (.escaped e) (.escaped e)

/-- Lookups with related endings, the same records and the same questions. -/
structure Lookup.Related (R : Value → Value → Prop) (l l' : Lookup) : Prop where
  ending : l.ending.Related R l'.ending
  records : l.records = l'.records
  ledger : l.ledger = l'.ledger

namespace Reply

variable {R' : Value → Value → Prop} {reply reply' reply'' : Reply}

/-- A reply is related to itself, if values are. -/
theorem related_self (hR : ∀ v, R v v) (reply : Reply) : reply.Related R reply := by
  cases reply with
  | found member => exact .found (hR member)
  | absent => exact .absent
  | closed => exact .closed
  | raised raised => exact .raised raised

/-- Replies that are related stay so in a greater relation. -/
theorem Related.mono (hsub : ∀ v w, R v w → R' v w) (h : reply.Related R reply') :
    reply.Related R' reply' := by
  cases h with
  | found hvw => exact .found (hsub _ _ hvw)
  | absent => exact .absent
  | closed => exact .closed
  | raised raised => exact .raised raised

/-- Related replies, the other way round. -/
theorem Related.flip (h : reply.Related R reply') : reply'.Related (fun v w => R w v) reply := by
  cases h with
  | found hvw => exact .found hvw
  | absent => exact .absent
  | closed => exact .closed
  | raised raised => exact .raised raised

/-- Replies that are related by way of a third one. -/
theorem Related.comp (h : reply.Related R reply') (h' : reply'.Related R' reply'') :
    reply.Related (fun v w => ∃ u, R v u ∧ R' u w) reply'' := by
  cases h with
  | found hvu =>
      cases h' with
      | found huw => exact .found ⟨_, hvu, huw⟩
  | absent =>
      cases h'
      exact .absent
  | closed =>
      cases h'
      exact .closed
  | raised raised =>
      cases h'
      exact .raised raised

end Reply

/-- Probes that are related stay so in a greater relation. -/
theorem Probe.Related.mono {R' : Value → Value → Prop} (hsub : ∀ v w, R v w → R' v w)
    {p p' : Probe} (h : p.Related R p') : p.Related R' p' :=
  ⟨h.reply.mono hsub, h.ledger⟩

/-- A lookup that hits nothing is related to itself. -/
theorem Lookup.related_of_ne_hit {l : Lookup} (h : ∀ v, l.ending ≠ .hit v) : l.Related R l := by
  refine ⟨?_, rfl, rfl⟩
  cases hending : l.ending with
  | hit v => exact absurd hending (h v)
  | miss => exact .miss
  | escaped e => exact .escaped e

/-- Earlier questions are no difference. -/
theorem Lookup.Related.after {l l' : Lookup} (h : l.Related R l') (records : List Miss)
    (asked : List (ℕ × Access)) : (l.after records asked).Related R (l'.after records asked) :=
  ⟨h.ending, congrArg (records ++ ·) h.records, congrArg (asked ++ ·) h.ledger⟩

/-- Related replies to a step come to related values, or end the run in the same way. -/
theorem Reply.Related.progress {reply reply' : Reply} (h : reply.Related R reply') (index : ℕ)
    (s : Segment) (asked : List (ℕ × Access)) :
    (reply.progress index s asked).Related R (reply'.progress index s asked) := by
  cases h with
  | found hvw => exact .reached asked hvw
  | absent => exact .ended _
  | closed => exact .ended _
  | raised raised => cases raised <;> exact .ended _

/-- An earlier ledger is no difference between runs. -/
theorem Progress.Related.after {p p' : Progress} (h : p.Related R p')
    (asked : List (ℕ × Access)) : (p.after asked).Related R (p'.after asked) := by
  cases h with
  | reached asked' hvw => exact .reached (asked ++ asked') hvw
  | ended l => exact .ended _

/-- Related runs are settled alike, if related values are at the end of a walk and no run that ends
before hits anything. -/
theorem Progress.Related.settle {p p' : Progress} {steps : ℕ} (h : p.Related R p')
    (harrive : ∀ v w, R v w → (v.arrive steps).Related R (w.arrive steps))
    (hends : ∀ l, p = .ended l → ∀ v, l.ending ≠ .hit v) :
    (p.settle steps).Related R (p'.settle steps) := by
  cases h with
  | reached asked hvw => exact (harrive _ _ hvw).after [] asked
  | ended l => exact Lookup.related_of_ne_hit (hends l rfl)

/-- Going on from related values in a related way. -/
theorem Progress.Related.andThen {p p' : Progress} {next next' : Value → Progress}
    (h : p.Related R p') (hnext : ∀ v w, R v w → (next v).Related R (next' w)) :
    (p.andThen next).Related R (p'.andThen next') := by
  cases h with
  | ended l => exact .ended l
  | @reached v w asked hvw =>
      rw [andThen_reached, andThen_reached]
      exact (hnext v w hvw).after asked

/-! ### Bisimulations -/

namespace Value

/-- The markers: values that a lookup tells from all others. -/
def IsMarker (v : Value) : Prop := v.isNullish = true ∨ v.isMark = true

/-- **Bisimulations.** Related values are the same marker or no marker, and they answer each name
that is not reserved with related members or without one, after the same questions. -/
structure IsBisimulation (R : Value → Value → Prop) : Prop where
  marker : ∀ {v w m}, R v w → m.IsMarker → (v = m ↔ w = m)
  member : ∀ {v w}, R v w → ∀ (attributes : Admission) (name : String),
    Path.isReserved name = false →
      (v.member attributes (.name name)).Related R (w.member attributes (.name name))

variable {v w : Value}

/-- Related values are nullish alike. -/
theorem IsBisimulation.isNullish_eq (hR : IsBisimulation R) (h : R v w) :
    v.isNullish = w.isNullish := by
  have hnull : v = null ↔ w = null := hR.marker h (Or.inl rfl)
  have hunset : v = unset ↔ w = unset := hR.marker h (Or.inl rfl)
  rw [Bool.eq_iff_iff, isNullish_iff, isNullish_iff, hnull, hunset]

/-- The marks that a lookup keeps for itself. -/
theorem isMark_iff {v : Value} : v.isMark = true ↔ v = notFound ∨ v = closed := by
  cases v <;> simp [isMark]

/-- Related members lead to related replies. -/
theorem IsBisimulation.related_ofMember (hR : IsBisimulation R) (h : R v w) :
    (Reply.ofMember v).Related R (Reply.ofMember w) := by
  have hnotFound : v = notFound ↔ w = notFound := hR.marker h (Or.inr rfl)
  have hclosed : v = closed ↔ w = closed := hR.marker h (Or.inr rfl)
  have hmarks : v.isMark = w.isMark := by
    rw [Bool.eq_iff_iff, isMark_iff, isMark_iff, hnotFound, hclosed]
  cases hv : v.isMark with
  | true =>
      rcases isMark_iff.mp hv with rfl | rfl
      · rw [hnotFound.mp rfl]
        exact .absent
      · rw [hclosed.mp rfl]
        exact .closed
  | false =>
      have hfound := Reply.ofMember_eq_found_iff.mpr ⟨rfl, hv⟩
      have hfound' := Reply.ofMember_eq_found_iff.mpr ⟨rfl, hmarks ▸ hv⟩
      rw [hfound, hfound']
      exact .found h

/-- What keeps a walk from asking a value keeps it from asking a related one. -/
theorem IsBisimulation.refuse?_eq (hR : IsBisimulation R) (h : R v w) (index : ℕ) (s : Segment) :
    v.refuse? index s = w.refuse? index s := by
  rw [refuse?, refuse?, hR.isNullish_eq h]

/-- **A step along a name** leads from related values to related values, or ends in the same way. A
reserved name is never asked for, so nothing is needed about what stands under one. -/
theorem step_related (hR : IsBisimulation R) (h : R v w) (attributes : Admission) (index : ℕ)
    (name : String) :
    (v.step attributes index (.name name)).Related R (w.step attributes index (.name name)) := by
  rw [step, step, ← hR.refuse?_eq h]
  cases hrefuse : v.refuse? index (.name name) with
  | some refused => exact .ended refused
  | none =>
      have hname : Path.isReserved name = false := by
        have hfree := (refuse?_name_eq_none_iff.mp hrefuse).1
        simpa [Path.isReserved] using hfree
      obtain ⟨hreply, hledger⟩ := hR.member h attributes name hname
      dsimp only
      rw [← hledger]
      exact hreply.progress index _ _

/-- **A run along names** leads from related values to related values, or ends in the same way. -/
theorem descend_related (hR : IsBisimulation R) (h : R v w) (attributes : Admission) (index : ℕ)
    (names : List String) :
    (v.descend attributes index (names.map .name)).Related R
      (w.descend attributes index (names.map .name)) := by
  induction names generalizing v w index with
  | nil => exact .reached [] h
  | cons name names ih =>
      rw [List.map_cons, descend, descend]
      exact (step_related hR h attributes index name).andThen fun _ _ h' => ih h' (index + 1)

/-- Related values at the end of a walk. -/
theorem arrive_related (hR : IsBisimulation R) (h : R v w) (steps : ℕ) :
    (v.arrive steps).Related R (w.arrive steps) := by
  have hunset : v = unset ↔ w = unset := hR.marker h (Or.inl rfl)
  by_cases hv : v = unset
  · obtain rfl := hv
    obtain rfl := hunset.mp rfl
    exact Lookup.related_of_ne_hit (by rintro v ⟨⟩)
  · rw [arrive_of_ne hv, arrive_of_ne (mt hunset.mpr hv)]
    exact ⟨.hit h, rfl, rfl⟩

/-- **Walks along names cannot tell related values apart**: they put the same questions to both,
leave the same records, and end with hits of related values or in the same way. -/
theorem walkNames_related (hR : IsBisimulation R) (h : R v w) (attributes : Admission)
    (names : List String) :
    (v.walkNames attributes names).Related R (w.walkNames attributes names) := by
  by_cases hnil : names = []
  · subst hnil
    rw [walkNames, walkNames, List.map_nil, walk, walk, coalesce, coalesce, ← hR.isNullish_eq h]
    cases v.isNullish with
    | true => exact ⟨.miss, rfl, rfl⟩
    | false => exact ⟨.hit h, rfl, rfl⟩
  · have hne : names.map Segment.name ≠ [] := mt List.map_eq_nil_iff.mp hnil
    rw [walkNames, walkNames, walk_eq_settle attributes v hne, walk_eq_settle attributes w hne]
    refine (descend_related hR h attributes 0 names).settle
      (fun _ _ h' => arrive_related hR h' _) fun l hends => ?_
    obtain ⟨_, _, -, hat⟩ := endsAt_of_descend hends
    exact hat.ne_hit

/-! ### The greatest bisimulation -/

/-- **Values are alike** if a bisimulation relates them. -/
def Alike (v w : Value) : Prop := ∃ R, IsBisimulation R ∧ R v w

/-- **Being alike is a bisimulation**, and by definition the greatest one. -/
theorem isBisimulation_alike : IsBisimulation Alike where
  marker := by
    rintro v w m ⟨R, hR, h⟩ hm
    exact hR.marker h hm
  member := by
    rintro v w ⟨R, hR, h⟩ attributes name hname
    exact (hR.member h attributes name hname).mono fun x y hxy => ⟨R, hR, hxy⟩

/-- A value is alike itself. -/
theorem Alike.refl (v : Value) : v.Alike v := by
  refine ⟨Eq, ⟨fun h _ => by rw [h], ?_⟩, rfl⟩
  rintro v _ rfl attributes name -
  exact ⟨Reply.related_self (fun _ => rfl) _, rfl⟩

/-- Values are alike in both directions. -/
theorem Alike.symm (h : v.Alike w) : w.Alike v := by
  obtain ⟨R, hR, h⟩ := h
  refine ⟨fun x y => R y x, ⟨fun h hm => (hR.marker h hm).symm, ?_⟩, h⟩
  intro x y h attributes name hname
  obtain ⟨hreply, hledger⟩ := hR.member h attributes name hname
  exact ⟨hreply.flip, hledger.symm⟩

/-- What is alike one value is alike all those that are alike it. -/
theorem Alike.trans {u : Value} (h : v.Alike u) (h' : u.Alike w) : v.Alike w := by
  refine ⟨fun x z => ∃ y, x.Alike y ∧ y.Alike z, ⟨?_, ?_⟩, u, h, h'⟩
  · rintro x z m ⟨y, hxy, hyz⟩ hm
    exact (isBisimulation_alike.marker hxy hm).trans (isBisimulation_alike.marker hyz hm)
  · rintro x z ⟨y, hxy, hyz⟩ attributes name hname
    obtain ⟨hreply, hledger⟩ := isBisimulation_alike.member hxy attributes name hname
    obtain ⟨hreply', hledger'⟩ := isBisimulation_alike.member hyz attributes name hname
    exact ⟨hreply.comp hreply', hledger.trans hledger'⟩

/-- Values that are no markers are alike if they answer each name that is not reserved with members
that are alike or without one, after the same questions. -/
theorem alike_of_member (hv : ¬v.IsMarker) (hw : ¬w.IsMarker)
    (h : ∀ (attributes : Admission) (name : String), Path.isReserved name = false →
      (v.member attributes (.name name)).Related Alike (w.member attributes (.name name))) :
    v.Alike w := by
  -- The two values are added to the greatest bisimulation.
  refine ⟨fun x y => x.Alike y ∨ (x = v ∧ y = w), ⟨?_, ?_⟩, Or.inr ⟨rfl, rfl⟩⟩
  · rintro x y m (halike | ⟨rfl, rfl⟩) hm
    · exact isBisimulation_alike.marker halike hm
    · constructor
      · rintro rfl
        exact absurd hm hv
      · rintro rfl
        exact absurd hm hw
  · rintro x y (halike | ⟨rfl, rfl⟩) attributes name hname
    · exact (isBisimulation_alike.member halike attributes name hname).mono fun _ _ => Or.inl
    · exact (h attributes name hname).mono fun _ _ => Or.inl

/-! ### Tables and the order of their entries -/

/-- A table is no marker. -/
theorem not_isMarker_of_core_table {kind : TableKind} {entries : List (Value × Value)}
    (h : v.core = .table kind entries) : ¬v.IsMarker := by
  rintro (hmarker | hmarker) <;> cases v <;> cases hmarker <;> cases h

/-- **Tables are alike** if under each name that is not reserved they hold members that are alike,
or nothing. -/
theorem alike_table {kind kind' : TableKind} {entries entries' : List (Value × Value)}
    (hv : v.core = .table kind entries) (hw : w.core = .table kind' entries')
    (h : ∀ name, Path.isReserved name = false →
      Option.Rel Alike ((Segment.name name).find? entries) ((Segment.name name).find? entries')) :
    v.Alike w := by
  refine alike_of_member (not_isMarker_of_core_table hv) (not_isMarker_of_core_table hw) ?_
  intro attributes name hname
  rw [member_of_table hv, member_of_table hw]
  have hfound := h name hname
  generalize (Segment.name name).find? entries = found,
    (Segment.name name).find? entries' = found' at hfound
  cases hfound with
  | some hm => exact ⟨isBisimulation_alike.related_ofMember hm, rfl⟩
  | none => exact ⟨.absent, rfl⟩

/-- What stands under a name does not depend on the order of the entries, if no two keys are the
same text. -/
theorem find?_eq_of_perm {entries entries' : List (Value × Value)} (hperm : entries.Perm entries')
    (hkeys : (entries.filterMap fun entry => entry.1.text?).Nodup) (name : String) :
    (Segment.name name).find? entries = (Segment.name name).find? entries' := by
  simp only [Segment.find?, Segment.names]
  congr 1
  induction hperm with
  | nil => rfl
  | cons entry _ ih =>
      have hrest := hkeys.sublist ((List.sublist_cons_self _ _).filterMap _)
      rw [List.find?_cons, List.find?_cons, ih hrest]
  | swap entry entry' rest =>
      rw [List.find?_cons, List.find?_cons, List.find?_cons, List.find?_cons]
      by_cases hentry : entry.1.text? = some name
      · by_cases hentry' : entry'.1.text? = some name
        · simp [hentry, hentry'] at hkeys
        · rw [beq_eq_false_iff_ne.mpr hentry']
      · rw [beq_eq_false_iff_ne.mpr hentry]
  | trans hfirst _ ih ih' =>
      exact (ih hkeys).trans (ih' ((hfirst.filterMap _).nodup_iff.mp hkeys))

/-- **The order of the entries makes no difference**: tables with the same entries are alike, if no
two keys are the same text. -/
theorem alike_table_of_perm {kind kind' : TableKind} {entries entries' : List (Value × Value)}
    (hperm : entries.Perm entries')
    (hkeys : (entries.filterMap fun entry => entry.1.text?).Nodup) :
    (table kind entries).Alike (table kind' entries') := by
  refine alike_table rfl rfl fun name _ => ?_
  rw [find?_eq_of_perm hperm hkeys]
  cases (Segment.name name).find? entries' with
  | none => exact Option.Rel.none
  | some m => exact Option.Rel.some (Alike.refl m)

end Value

/-! ### Sessions -/

namespace Session

/-- **Lookups from two roots have one kind of outcome**: both hit, related values; or both miss with
the same records, and the session answers and changes in the same way; or the same escape leaves
both. -/
inductive LooksAlike (R : Value → Value → Prop) (s : Session) (fallback v w : Value)
    (names : List String) : Prop
  | hit {x y : Value} :
      R x y →
      (v.walkAlong s.settings.admitsAttributes (.ofNames names)).ending = .hit x →
      (w.walkAlong s.settings.admitsAttributes (.ofNames names)).ending = .hit y →
      s.look (.segments v (.ofNames names)) fallback = (s, ⟨.ok ⟨x, true⟩, []⟩) →
      s.look (.segments w (.ofNames names)) fallback = (s, ⟨.ok ⟨y, true⟩, []⟩) →
      LooksAlike R s fallback v w names
  | miss :
      (v.walkAlong s.settings.admitsAttributes (.ofNames names)).ending = .miss →
      (w.walkAlong s.settings.admitsAttributes (.ofNames names)).ending = .miss →
      (v.walkAlong s.settings.admitsAttributes (.ofNames names)).records =
        (w.walkAlong s.settings.admitsAttributes (.ofNames names)).records →
      s.look (.segments v (.ofNames names)) fallback =
        s.look (.segments w (.ofNames names)) fallback →
      LooksAlike R s fallback v w names
  | escaped {e : Escape} :
      (v.walkAlong s.settings.admitsAttributes (.ofNames names)).ending = .escaped e →
      (w.walkAlong s.settings.admitsAttributes (.ofNames names)).ending = .escaped e →
      s.look (.segments v (.ofNames names)) fallback = (s, ⟨.error e, []⟩) →
      s.look (.segments w (.ofNames names)) fallback = (s, ⟨.error e, []⟩) →
      LooksAlike R s fallback v w names

/-- **No session tells related values apart** by lookups along names, for any bisimulation. -/
theorem looksAlike (hR : Value.IsBisimulation R) (s : Session) (fallback : Value) {v w : Value}
    (h : R v w) (names : List String) : s.LooksAlike R fallback v w names := by
  obtain ⟨hending, hrecords, -⟩ :=
    Value.walkNames_related hR h s.settings.admitsAttributes names
  have hv := Value.walkNames_cases s.settings.admitsAttributes v names
  rw [← Value.walkAlong_ofNames] at hv hrecords hending
  rw [← Value.walkAlong_ofNames] at hrecords hending
  rcases hv with ⟨x, hx, hnone⟩ | ⟨hmiss, -⟩ | ⟨kind, i, hesc, hnone, -⟩
  · rw [hx] at hending
    generalize hw : (w.walkAlong _ _).ending = ending at hending
    cases hending with
    | hit hxy => exact .hit hxy hx hw (look_of_hit hx hnone) (look_of_hit hw (hrecords ▸ hnone))
  · rw [hmiss] at hending
    generalize hw : (w.walkAlong _ _).ending = ending at hending
    cases hending
    exact .miss hmiss hw hrecords (look_congr (hmiss.trans hw.symm) hrecords)
  · rw [hesc] at hending
    generalize hw : (w.walkAlong _ _).ending = ending at hending
    cases hending
    exact .escaped hesc hw (look_of_escaped hesc hnone) (look_of_escaped hw (hrecords ▸ hnone))

end Session

end SafeLookup
