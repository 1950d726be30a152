import SafeLookup.Proofs.Walk.Alike

/-!
# Reserved Members Make No Difference

`Value.prune` deletes the reserved members of a value: every entry of a mapping and every attribute
of an object whose name is reserved, in the value itself and in everything that a walk can come to.
Values that are equal once they are pruned cannot be told apart by lookups, whatever stands under
their reserved names (`look_of_prune_eq`).

The relation of such values is a bisimulation (`isBisimulation_prune_eq`), so all that is said of
bisimulations holds of it. The greatest one, the relation of values that are alike, does not see the
order of entries either (`alike_table_of_perm_prune`).

## Proof outline

A container and its pruned form answer alike for every name that is not reserved, up to pruning of
what is read (`MappingView.Prunes`, `SequenceView.Prunes`); a reserved name is never asked for. That
carries over to the lookup of a member (`member_prune`), and two values with one pruned form answer
alike because both answer as that one does.
-/

namespace SafeLookup

namespace Value

/-- A key that is a reserved name. -/
def isReservedKey (key : Value) : Bool := key.text?.any Path.isReserved

mutual

/-- A value without its reserved members, at every depth. -/
def prune : Value → Value
  | run kind items => run kind (pruneAll items)
  | table kind entries => table kind (pruneEntries entries)
  | layers ls => layers (pruneLayers ls)
  | mapping entries membership unreadable => mapping (pruneEntries entries) membership unreadable
  | sequence items length unreadable => sequence (pruneAll items) length unreadable
  | object kind attributes => object kind (pruneAttributes attributes)
  | namespaced names => namespaced (prune names)
  | derived base attributes label => derived (prune base) (pruneAttributes attributes) label
  | v => v

/-- Some values without their reserved members. -/
def pruneAll : List Value → List Value
  | [] => []
  | v :: rest => prune v :: pruneAll rest

/-- Some entries without the reserved ones. -/
def pruneEntries : List (Value × Value) → List (Value × Value)
  | [] => []
  | (key, v) :: rest =>
      if isReservedKey key then pruneEntries rest else (key, prune v) :: pruneEntries rest

/-- Some tables without their reserved entries. -/
def pruneLayers : List (List (Value × Value)) → List (List (Value × Value))
  | [] => []
  | entries :: rest => pruneEntries entries :: pruneLayers rest

/-- Some attributes without the reserved ones. -/
def pruneAttributes : List (String × Value) → List (String × Value)
  | [] => []
  | (name, v) :: rest =>
      if Path.isReserved name then pruneAttributes rest
      else (name, prune v) :: pruneAttributes rest

end

/-! ### What pruning leaves -/

/-- Items are pruned one by one. -/
theorem pruneAll_eq_map (items : List Value) : pruneAll items = items.map prune := by
  induction items with
  | nil => rfl
  | cons v rest ih => rw [pruneAll, List.map_cons, ih]

/-- Tables are pruned one by one. -/
theorem pruneLayers_eq_map (ls : List (List (Value × Value))) :
    pruneLayers ls = ls.map pruneEntries := by
  induction ls with
  | nil => rfl
  | cons entries rest ih => rw [pruneLayers, List.map_cons, ih]

/-- Attributes that stand behind each other are pruned one after the other. -/
theorem pruneAttributes_append (attributes attributes' : List (String × Value)) :
    pruneAttributes (attributes ++ attributes') =
      pruneAttributes attributes ++ pruneAttributes attributes' := by
  induction attributes with
  | nil => rfl
  | cons entry rest ih =>
      obtain ⟨name, v⟩ := entry
      rw [List.cons_append, pruneAttributes, pruneAttributes]
      split
      · exact ih
      · rw [ih, List.cons_append]

/-- Attributes are pruned like entries whose keys are their names. -/
theorem map_pruneAttributes (attributes : List (String × Value)) :
    (pruneAttributes attributes).map (fun (name, v) => (text name, v)) =
      pruneEntries (attributes.map fun (name, v) => (text name, v)) := by
  induction attributes with
  | nil => rfl
  | cons entry rest ih =>
      obtain ⟨name, v⟩ := entry
      have hkey : isReservedKey (text name) = Path.isReserved name := rfl
      rw [pruneAttributes, List.map_cons, pruneEntries, hkey]
      split
      · exact ih
      · rw [List.map_cons, ih]

/-- **What stands under a name that is not reserved stays there**, pruned. -/
theorem find?_pruneEntries {name : String} (h : Path.isReserved name = false)
    (entries : List (Value × Value)) :
    (Segment.name name).find? (pruneEntries entries) =
      ((Segment.name name).find? entries).map prune := by
  induction entries with
  | nil => rfl
  | cons entry rest ih =>
      obtain ⟨key, v⟩ := entry
      simp only [Segment.find?, Segment.names] at ih ⊢
      rw [pruneEntries]
      by_cases hkey : key.text? = some name
      · have hfree : isReservedKey key = false := by rw [isReservedKey, hkey, Option.any_some, h]
        simp [hfree, hkey]
      · split
        · simpa [hkey] using ih
        · simpa [hkey] using ih

/-- The value that a pruned value acts as is pruned. -/
theorem core_prune (v : Value) : v.prune.core = v.core.prune := by
  induction v using core.induct with
  | case1 base attributes label ih => rw [prune, core, core, ih]
  | case2 v hv => cases v <;> first | rfl | exact absurd rfl (hv _ _ _)

/-- The attributes that were added to a pruned value are pruned. -/
theorem added_prune (v : Value) : v.prune.added = pruneAttributes v.added := by
  induction v using added.induct with
  | case1 base attributes label ih => rw [prune, added, added, pruneAttributes_append, ih]
  | case2 v hv => cases v <;> first | rfl | exact absurd rfl (hv _ _ _)

/-- Pruning makes no value derived, and leaves those that there are. -/
theorem isDerived_prune (v : Value) : v.prune.isDerived = v.isDerived := by
  cases v <;> rfl

/-- Pruning makes no scalar, and leaves those that there are. -/
theorem isScalar_prune (v : Value) : v.prune.isScalar = v.isScalar := by
  rw [isScalar, isScalar, core_prune]
  cases v.core <;> rfl

end Value

/-! ### Containers and their pruned forms -/

/-- A mapping that answers as another one does for names that are not reserved, with the values
pruned. -/
structure MappingView.Prunes (view pruned : MappingView) : Prop where
  contains : ∀ name, Path.isReserved name = false →
    pruned.contains (.name name) = view.contains (.name name)
  read : ∀ name, Path.isReserved name = false →
    pruned.read (.name name) = (view.read (.name name)).map Value.prune

/-- A sequence that answers as another one does, with the items pruned. -/
structure SequenceView.Prunes (view pruned : SequenceView) : Prop where
  length : pruned.length = view.length
  read : ∀ i, pruned.read i = (view.read i).map Value.prune

namespace MappingView

/-- Mappings that find what others find, pruned. -/
theorem prunes_ofFind {find? pruned? : Segment → Option Value}
    (h : ∀ name, Path.isReserved name = false →
      pruned? (.name name) = (find? (.name name)).map Value.prune) :
    (ofFind find?).Prunes (ofFind pruned?) := by
  constructor
  · intro name hname
    simp only [ofFind, h name hname, Option.isSome_map]
  · intro name hname
    simp only [ofFind, h name hname]
    split
    · cases find? (.name name) <;> rfl
    · rfl

/-- The answers of pruned entries. -/
theorem prunes_ofEntries (entries : List (Value × Value)) :
    (ofEntries entries).Prunes (ofEntries (Value.pruneEntries entries)) :=
  prunes_ofFind fun _ hname => Value.find?_pruneEntries hname entries

/-- The answers of pruned tables in front of each other. -/
theorem prunes_ofLayers (ls : List (List (Value × Value))) :
    (ofLayers ls).Prunes (ofLayers (Value.pruneLayers ls)) := by
  refine prunes_ofFind fun name hname => ?_
  rw [Value.pruneLayers_eq_map, List.findSome?_map]
  induction ls with
  | nil => rfl
  | cons entries rest ih =>
      rw [List.findSome?_cons, List.findSome?_cons, Function.comp,
        Value.find?_pruneEntries hname]
      cases (Segment.name name).find? entries with
      | none => exact ih
      | some v => rfl

/-- The answers of a pruned custom mapping: it reads as its entries do, and what it claims to have
depends on what it reads at most. -/
theorem prunes_custom (entries : List (Value × Value)) (membership : Membership)
    (unreadable : Option Raised) :
    (custom entries membership unreadable).Prunes
      (custom (Value.pruneEntries entries) membership unreadable) := by
  have hread : ∀ name, Path.isReserved name = false →
      readCustom (Value.pruneEntries entries) unreadable (.name name) =
        (readCustom entries unreadable (.name name)).map Value.prune := by
    intro name hname
    cases unreadable with
    | some raised => rfl
    | none => exact (prunes_ofEntries entries).read name hname
  refine ⟨fun name hname => ?_, hread⟩
  cases membership with
  | always answer => rfl
  | raises raised => rfl
  | byReading =>
      simp only [custom, containsByReading, hread name hname]
      cases readCustom entries unreadable (.name name) <;> rfl

end MappingView

namespace SequenceView

/-- The answers of pruned items. -/
theorem prunes_ofItems (items : List Value) :
    (ofItems items).Prunes (ofItems (Value.pruneAll items)) := by
  rw [Value.pruneAll_eq_map]
  constructor
  · simp only [ofItems, List.length_map]
  · intro i
    simp only [ofItems, List.getElem?_map]
    cases items[i]? <;> rfl

/-- The answers of a pruned custom sequence. -/
theorem prunes_custom (items : List Value) (length : Length) (unreadable : Option Raised) :
    (custom items length unreadable).Prunes
      (custom (Value.pruneAll items) length unreadable) := by
  constructor
  · simp only [custom, Value.pruneAll_eq_map, List.length_map]
  · intro i
    cases unreadable with
    | some raised => rfl
    | none => exact (prunes_ofItems items).read i

/-- A sequence of numbers has nothing to prune. -/
theorem prunes_self {view : SequenceView} (h : ∀ i, view.read i = (view.read i).map Value.prune) :
    view.Prunes view := ⟨rfl, h⟩

end SequenceView

namespace Value

/-- A value is a mapping exactly if its pruned form is one, with pruned answers. -/
theorem mappingView?_prune (v : Value) :
    Option.Rel MappingView.Prunes v.mappingView? v.prune.mappingView? := by
  rw [mappingView?, mappingView?, core_prune]
  cases v.core with
  | table kind entries => exact Option.Rel.some (MappingView.prunes_ofEntries entries)
  | layers ls => exact Option.Rel.some (MappingView.prunes_ofLayers ls)
  | mapping entries membership unreadable =>
      exact Option.Rel.some (MappingView.prunes_custom entries membership unreadable)
  | _ => exact Option.Rel.none

/-- A value is a sequence exactly if its pruned form is one, with pruned answers. -/
theorem sequenceView?_prune (v : Value) :
    Option.Rel SequenceView.Prunes v.sequenceView? v.prune.sequenceView? := by
  rw [sequenceView?, sequenceView?, core_prune]
  cases v.core with
  | run kind items => exact Option.Rel.some (SequenceView.prunes_ofItems items)
  | sequence items length unreadable =>
      exact Option.Rel.some (SequenceView.prunes_custom items length unreadable)
  | range start stop step =>
      refine Option.Rel.some (SequenceView.prunes_self fun i => ?_)
      simp only [SequenceView.ofRange]
      split <;> rfl
  | window os =>
      refine Option.Rel.some (SequenceView.prunes_self fun i => ?_)
      simp only [SequenceView.ofItems, List.getElem?_map]
      cases os[i]? <;> rfl
  | _ => exact Option.Rel.none

/-- The answers of pruned attributes. -/
theorem prunes_ofAttributes (attributes : List (String × Value)) :
    (MappingView.ofAttributes attributes).Prunes
      (MappingView.ofAttributes (pruneAttributes attributes)) := by
  rw [MappingView.ofAttributes, MappingView.ofAttributes, map_pruneAttributes]
  exact MappingView.prunes_ofEntries _

/-- The namespace of a value is that of its pruned form, with pruned answers, and what reading it
raises is the same. -/
theorem names_prune (v : Value) :
    (∃ raised, v.names = .error raised ∧ v.prune.names = .error raised) ∨
      ∃ names pruned, v.names = .ok names ∧ v.prune.names = .ok pruned ∧
        Option.Rel MappingView.Prunes names pruned := by
  have hadded : Option.Rel MappingView.Prunes
      (if v.isDerived then some (.ofAttributes v.added) else none)
      (if v.isDerived then some (.ofAttributes (pruneAttributes v.added)) else none) := by
    split
    · exact Option.Rel.some (prunes_ofAttributes v.added)
    · exact Option.Rel.none
  rw [names, names, core_prune, added_prune, isDerived_prune]
  cases v.core with
  | object kind attributes =>
      refine Or.inr ⟨_, _, rfl, rfl, Option.Rel.some ?_⟩
      rw [← pruneAttributes_append]
      exact prunes_ofAttributes _
  | namespaced ns => exact Or.inr ⟨_, _, rfl, rfl, mappingView?_prune ns⟩
  | guarded raised =>
      cases raised with
      | interrupt => exact Or.inl ⟨_, rfl, rfl⟩
      | fault f =>
          cases f with
          | wrongType => exact Or.inr ⟨_, _, rfl, rfl, Option.Rel.none⟩
          | missingAttribute => exact Or.inr ⟨_, _, rfl, rfl, Option.Rel.none⟩
          | _ => exact Or.inl ⟨_, rfl, rfl⟩
  | _ => exact Or.inr ⟨_, _, rfl, rfl, hadded⟩

end Value

/-! ### Members -/

/-- A reply with a changed member. -/
def Reply.map (f : Value → Value) : Reply → Reply
  | found member => found (f member)
  | absent => absent
  | closed => closed
  | raised r => raised r

/-- A probe with a changed member. -/
def Probe.map (f : Value → Value) (p : Probe) : Probe := ⟨p.reply.map f, p.ledger⟩

/-- A reply is related to the one with a changed member. -/
theorem Reply.related_map (f : Value → Value) (reply : Reply) :
    reply.Related (fun v w => w = f v) (reply.map f) := by
  cases reply with
  | found member => exact .found rfl
  | absent => exact .absent
  | closed => exact .closed
  | raised raised => exact .raised raised

/-- Replies that are equal once their members are changed bring members that are. -/
theorem Reply.related_of_map_eq {f : Value → Value} {reply reply' : Reply}
    (h : reply.map f = reply'.map f) : reply.Related (fun v w => f v = f w) reply' := by
  cases reply with
  | found member =>
      cases reply' with
      | found member' => exact .found (Reply.found.inj h)
      | _ => cases h
  | absent =>
      cases reply' with
      | absent => exact .absent
      | _ => cases h
  | closed =>
      cases reply' with
      | closed => exact .closed
      | _ => cases h
  | raised raised =>
      cases reply' with
      | raised raised' => exact Reply.raised.inj h ▸ .raised raised
      | _ => cases h

/-- A pruned member is found where the member is. -/
theorem Probe.ofRead_map_prune (asked : List Access) (read : Except Raised Value) :
    ofRead asked (read.map Value.prune) = (ofRead asked read).map Value.prune := by
  cases read with
  | error raised => rfl
  | ok v => cases v <;> rfl

/-- What a pruned mapping answers to a name that is not reserved. -/
theorem MappingView.Prunes.member {view pruned : MappingView} (h : view.Prunes pruned)
    {name : String} (hname : Path.isReserved name = false) :
    pruned.member (.name name) = (view.member (.name name)).map Value.prune := by
  rw [MappingView.member, MappingView.member, h.contains name hname, h.read name hname]
  rcases view.contains (.name name) with raised | _ | _
  · rfl
  · rfl
  · exact Probe.ofRead_map_prune _ _

/-- What a pruned sequence answers to a name. -/
theorem SequenceView.Prunes.member {view pruned : SequenceView} (h : view.Prunes pruned)
    (name : String) :
    pruned.member (.name name) = (view.member (.name name)).map Value.prune := by
  simp only [SequenceView.member, memberNamed, memberAt, h.length, h.read]
  split
  · rfl
  · split
    · rfl
    · cases view.length with
      | error raised => rfl
      | ok n =>
          dsimp only
          split
          · exact Probe.ofRead_map_prune _ _
          · rfl

namespace Value

/-- **A pruned value answers as the value does** to a name that is not reserved, with a pruned
member. -/
theorem member_prune (attributes : Admission) (v : Value) {name : String}
    (hname : Path.isReserved name = false) :
    v.prune.member attributes (.name name) = (v.member attributes (.name name)).map prune := by
  rw [member, member, shape, shape, isScalar_prune]
  have hmap := mappingView?_prune v
  have hseq := sequenceView?_prune v
  generalize v.mappingView? = view?, v.prune.mappingView? = pruned? at hmap ⊢
  generalize v.sequenceView? = view?, v.prune.sequenceView? = pruned? at hseq ⊢
  cases hmap with
  | some hview => exact hview.member hname
  | none =>
      cases hseq with
      | some hview => exact hview.member name
      | none =>
          cases v.isScalar with
          | true => cases attributes <;> rfl
          | false =>
              rcases attributes with raised | _ | _
              · rfl
              · rfl
              · rcases names_prune v with ⟨raised, h, h'⟩ | ⟨names, pruned, h, h', hnames⟩
                · rw [h, h']
                  rfl
                · rw [h, h']
                  cases hnames with
                  | none => rfl
                  | some hview =>
                      simp only [Bool.false_eq_true, if_false, Shape.member, Shape.memberOfNames]
                      rw [hview.member hname]
                      rfl

/-- Pruning makes no marker, and leaves those that there are. -/
theorem prune_eq_marker_iff {v m : Value} (hm : m.IsMarker) : v.prune = m ↔ v = m := by
  rcases hm with hm | hm <;> cases m <;> cases hm <;> cases v <;> simp [prune]

/-- **To be equal once they are pruned is a bisimulation** of values. -/
theorem isBisimulation_prune_eq : IsBisimulation fun v w => v.prune = w.prune where
  marker := by
    intro v w m h hm
    rw [← prune_eq_marker_iff hm, h, prune_eq_marker_iff hm]
  member := by
    intro v w h attributes name hname
    have hprobes : (v.member attributes (.name name)).map prune =
        (w.member attributes (.name name)).map prune := by
      rw [← member_prune attributes v hname, h, member_prune attributes w hname]
    have hreply := congrArg Probe.reply hprobes
    have hledger := congrArg Probe.ledger hprobes
    exact ⟨Reply.related_of_map_eq hreply, hledger⟩

/-- **Lookups do not notice the pruning**: a value is alike its pruned form. -/
theorem alike_prune (v : Value) : v.Alike v.prune := by
  refine ⟨fun x y => y = x.prune, ⟨?_, ?_⟩, rfl⟩
  · rintro x _ m rfl hm
    exact (prune_eq_marker_iff hm).symm
  · rintro x _ rfl attributes name hname
    rw [member_prune attributes x hname]
    exact ⟨Reply.related_map prune _, rfl⟩

/-- **Neither reserved entries nor the order of entries makes a difference**: tables are alike if
they are left with the same entries, in whatever order, and no two of these have the same text for a
key. -/
theorem alike_table_of_perm_prune {kind kind' : TableKind} {entries entries' : List (Value × Value)}
    (hperm : (pruneEntries entries).Perm (pruneEntries entries'))
    (hkeys : ((pruneEntries entries).filterMap fun entry => entry.1.text?).Nodup) :
    (table kind entries).Alike (table kind' entries') := by
  have hpruned : (table kind entries).prune.Alike (table kind' entries').prune :=
    alike_table_of_perm hperm hkeys
  exact (alike_prune _).trans (hpruned.trans (alike_prune _).symm)

end Value

namespace Session

/-- **Reserved members make no difference.** Let two roots be equal once they are pruned. In every
session and along all names, the lookups from the two roots have the same kind of outcome: both hit,
values that are equal once they are pruned; or both miss with the same records, and the session
answers and changes in the same way; or the same escape leaves both. -/
theorem look_of_prune_eq (s : Session) (fallback : Value) {v w : Value} (h : v.prune = w.prune)
    (names : List String) :
    (∃ x y, x.prune = y.prune ∧
      (v.walkAlong s.settings.admitsAttributes (.ofNames names)).ending = .hit x ∧
      (w.walkAlong s.settings.admitsAttributes (.ofNames names)).ending = .hit y ∧
      s.look (.segments v (.ofNames names)) fallback = (s, ⟨.ok ⟨x, true⟩, []⟩) ∧
      s.look (.segments w (.ofNames names)) fallback = (s, ⟨.ok ⟨y, true⟩, []⟩)) ∨
    ((v.walkAlong s.settings.admitsAttributes (.ofNames names)).ending = .miss ∧
      (w.walkAlong s.settings.admitsAttributes (.ofNames names)).ending = .miss ∧
      (v.walkAlong s.settings.admitsAttributes (.ofNames names)).records =
        (w.walkAlong s.settings.admitsAttributes (.ofNames names)).records ∧
      s.look (.segments v (.ofNames names)) fallback =
        s.look (.segments w (.ofNames names)) fallback) ∨
    ∃ e, (v.walkAlong s.settings.admitsAttributes (.ofNames names)).ending = .escaped e ∧
      (w.walkAlong s.settings.admitsAttributes (.ofNames names)).ending = .escaped e ∧
      s.look (.segments v (.ofNames names)) fallback = (s, ⟨.error e, []⟩) ∧
      s.look (.segments w (.ofNames names)) fallback = (s, ⟨.error e, []⟩) := by
  cases looksAlike Value.isBisimulation_prune_eq s fallback h names with
  | hit hxy hx hy hlook hlook' => exact Or.inl ⟨_, _, hxy, hx, hy, hlook, hlook'⟩
  | miss hv hw hrecords hlook => exact Or.inr (Or.inl ⟨hv, hw, hrecords, hlook⟩)
  | escaped hv hw hlook hlook' => exact Or.inr (Or.inr ⟨_, hv, hw, hlook, hlook'⟩)

/-- Reserved members of a table, of an object in it and of a mapping in a list, on one side or on
both: the list is hit from both sides. -/
theorem look_of_prune_eq_nested :
    let v : Value := .table .plain [(.text "__class__", .int 4), (.text "a",
      .object .plain [("__dict__", .int 1), ("b",
        .run .list
          [.mapping [(.text "constructor", .int 2), (.text "c", .int 3)] .byReading none])])]
    let w : Value := .table .plain [(.text "a",
      .object .plain [("b", .run .list [.mapping [(.text "c", .int 3)] .byReading none]),
        ("__init__", .null)]), (.text "__proto__", .unset)]
    v.prune = w.prune ∧ ∃ x y, x.prune = y.prune ∧
      (v.walkAlong (.ok true) (.ofNames ["a", "b"])).ending = .hit x ∧
      (w.walkAlong (.ok true) (.ofNames ["a", "b"])).ending = .hit y := by
  intro v w
  have hprune : v.prune = w.prune := by rfl
  refine ⟨hprune, ?_⟩
  rcases look_of_prune_eq (.forLookups (.bool true) (.bool true)) .null hprune ["a", "b"] with
    ⟨x, y, hxy, hx, hy, -⟩ | ⟨hmiss, -⟩ | ⟨e, hesc, -⟩
  · exact ⟨x, y, hxy, hx, hy⟩
  · cases hmiss
  · cases hesc

end Session

end SafeLookup
