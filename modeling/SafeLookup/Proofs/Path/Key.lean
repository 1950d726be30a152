import SafeLookup.Proofs.Path.Escape
import SafeLookup.Proofs.Session.Look
import SafeLookup.Proofs.Walk.Names

/-!
# Keys and Their Escaped Spelling

`Path.escape` spells a key so that no dot of it separates. Dots are all that it escapes, so a key
with an opening bracket is not read back from its spelling, and neither is the empty key, which
names no segment. Every other key is, whatever backslashes, dots and closing brackets it has and
whatever it ends in: the reader looks no further than one character ahead, and what the spelling
puts behind a backslash of the key is never a dot of its own.

So the entry of a table under a key is found by the escaped key (`look_escape_eq`). That takes a
key that is not reserved, and an entry that is a member: neither unset nor one of the marks that a
lookup keeps for itself. Those are never found: what stands there is taken for what the mark says.
-/

namespace SafeLookup

namespace Path

/-- A key without an opening bracket is the only segment of its spelling, unless it is empty. -/
theorem scan_escapeChars_eq_singleton {k : List Char} (hne : k ≠ []) (hopen : '[' ∉ k) :
    scan .key [] (escapeChars k) = [k] := by
  have hread : scan .key [] (escapeChars k ++ []) = scan .key (k.reverse ++ []) [] :=
    scan_escapeChars hopen (by simp) []
  rw [List.append_nil, List.append_nil, scan_nil] at hread
  rw [hread, close_of_ne_nil (mt List.reverse_eq_nil_iff.mp hne), List.reverse_reverse]

/-- **The keys that are read back from their spelling**: those that are not empty and have no
opening bracket. -/
theorem scan_escapeChars_eq_singleton_iff {k : List Char} :
    scan .key [] (escapeChars k) = [k] ↔ k ≠ [] ∧ '[' ∉ k := by
  constructor
  · intro h
    refine ⟨ne_nil_of_mem_scan (h ▸ List.mem_singleton_self k), fun hopen => ?_⟩
    -- Nothing follows the key, and still it is not what is read first.
    have hlost := head?_scan_escapeChars_ne hopen Continues.nil
    rw [List.append_nil, h, List.head?_cons] at hlost
    exact hlost rfl
  · rintro ⟨hne, hopen⟩
    exact scan_escapeChars_eq_singleton hne hopen

/-- Reading the spelling of a key is reading its characters. -/
theorem segments_escape (k : String) :
    segments (escape k) = (scan .key [] (escapeChars k.toList)).map String.ofList := by
  rw [segments, escape, String.toList_ofList]

/-- The segments of the spelling of a key are the key if its characters are read back. -/
theorem segments_escape_eq_iff_scan {k : String} :
    segments (escape k) = [k] ↔ scan .key [] (escapeChars k.toList) = [k.toList] := by
  rw [segments_escape]
  constructor
  · intro h
    have hchars := congrArg (List.map String.toList) h
    simpa using hchars
  · intro h
    simp [h]

end Path

namespace Session

/-- **What stands under a key without being a member** is missed: an unset entry, and the marks that
a lookup keeps for itself. -/
theorem ending_walkNames_of_not_member {d w : Value} {k : String} {kind : TableKind}
    {entries : List (Value × Value)} (hd : d.core = .table kind entries)
    (hfind : (Segment.name k).find? entries = some w) (hk : k ∉ Path.reservedNames)
    (hw : w = .unset ∨ w.isMark = true) (attributes : Admission) :
    (d.walkNames attributes [k]).ending = .miss := by
  have hreply : (d.member attributes (.name k)).reply = .ofMember w := by
    rw [Value.member_of_table hd, hfind]
  have hrefuse : d.refuse? 0 (.name k) = none := by
    refine Value.refuse?_name_eq_none_iff.mpr ⟨hk, ?_, ?_⟩ <;> rintro rfl <;> cases hd
  rw [Value.walkNames, List.map_singleton, Value.walk, Value.walkFrom, hrefuse]
  dsimp only
  rw [hreply]
  rcases hw with rfl | hmark
  · rfl
  · cases w <;> first | rfl | cases hmark

/-- The lookup of a table by an escaped key is the walk along the key. -/
theorem lookup_escape {k : String} (h : Path.segments (Path.escape k) = [k]) (d : Value)
    (attributes : Admission) :
    (Query.path d (.text (Path.escape k))).lookup attributes = d.walkNames attributes [k] := by
  rw [← h]
  rfl

end Session

end SafeLookup
