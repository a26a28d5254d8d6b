import LiveSnippet.Proofs.Script.Strings
import LiveSnippet.Proofs.Text.Occurrences

/-!
# Strings put together and taken apart

Scripts take strings apart by splitting, and put them together by `+`, `repeat`, `replaceAll` and
`join`. Taking apart is undone by putting together again: the pieces of a string joined with the
separator are the string, and joined with anything else they are the string with the separator
replaced.

Whatever puts strings together works out the length beforehand, from the lengths of the parts and
their number. It gets the length of the string that it would build, so it fails exactly if that
string is too long. A length that is too large to be counted is too long, too, so it does not matter
where counting stops.

## Main definitions

* `Value.splitJoin`: a string split and joined
* `Operation.expectedBytes?`: the length that is worked out beforehand

## Main results

* `Value.split_join_coherent`: splitting, joining and replacing
* `Operation.expectedBytes?_of_joins`: the length that is worked out is the length that is built
* `Operation.joins_exactly`: putting together fails exactly if the string is too long
-/

namespace LiveSnippet.Script

theorem build_eq_ok_iff {t : Text} {v : Value} :
    build t = .ok v ↔ t.byteSize ≤ maxStringBytes ∧ v = .string t := by
  rw [build_eq]
  split_ifs with hlong
  · simp [hlong]
  · rw [Except.ok.injEq, and_iff_right (Nat.le_of_not_lt hlong), eq_comm]

theorem build_of_le {t : Text} (h : t.byteSize ≤ maxStringBytes) : build t = .ok (.string t) :=
  build_eq_ok_iff.mpr ⟨h, rfl⟩

/-! ### Splitting and joining -/

namespace Value

/-- A string split at a separator and joined with another. -/
def splitJoin (s : Text) (separator glue : Value) : Result Value := do
  let pieces ← (string s).callMethod "split".toList [separator]
  pieces.callMethod "join".toList [glue]

variable {s : Text} {separator needle replacement : Value}

/-- Strings in a list are joined as they are. -/
theorem itemTexts_map_string (ts : List Text) : itemTexts (ts.map string) = ts := by
  induction ts with
  | nil => rfl
  | cons t ts ih => exact congrArg (t :: ·) ih

theorem join_strings (ts : List Text) (glue : Value) :
    (strings ts).callMethod "join".toList [glue] = build (Text.join glue.toText ts) := by
  have hcall : (strings ts).callMethod "join".toList [glue] =
      ListMethod.callJoin (ts.map string) [glue] := rfl
  have hglue : ListMethod.separator [glue] = glue.toText := rfl
  rw [hcall, ListMethod.callJoin_eq_build, itemTexts_map_string, hglue]

theorem split_of_ne (h : separator.toText ≠ []) (s : Text) :
    (string s).callMethod "split".toList [separator] =
      .ok (strings (Text.splitOn separator.toText s)) := by
  have hsplit : StringMethod.callSplit s [separator] =
      strings (Text.splitOn separator.toText s) := by
    rw [StringMethod.callSplit, if_neg (by simpa using h)]
  exact congrArg Except.ok hsplit

theorem split_of_eq (h : separator.toText = []) (s : Text) :
    (string s).callMethod "split".toList [separator] = .ok (strings (s.map ([·]))) := by
  have hsplit : StringMethod.callSplit s [separator] = strings (s.map ([·])) := by
    rw [StringMethod.callSplit, h]
    rfl
  exact congrArg Except.ok hsplit

/-- The pieces of a string joined with the separator: the string. -/
theorem splitJoin_self (s : Text) (separator : Value) :
    splitJoin s separator separator = build s := by
  by_cases h : separator.toText = []
  · have hchars : Text.join separator.toText (s.map ([·])) = s := by
      rw [h, Text.join_nil, ← List.flatMap_def]
      exact List.flatMap_singleton' s
    rw [splitJoin, split_of_eq h]
    exact (join_strings _ separator).trans (congrArg build hchars)
  · rw [splitJoin, split_of_ne h]
    exact (join_strings _ separator).trans (congrArg build (Text.join_splitOn h s))

theorem splitJoin_eq_build (h : needle.toText ≠ []) (s : Text) (replacement : Value) :
    splitJoin s needle replacement =
      build (Text.join replacement.toText (Text.splitOn needle.toText s)) := by
  rw [splitJoin, split_of_ne h]
  exact join_strings _ replacement

/-- The pieces of a string joined with anything: the string with the separator replaced. -/
theorem splitJoin_eq_replaceAll (h : needle.toText ≠ []) (s : Text) (replacement : Value) :
    splitJoin s needle replacement =
      (string s).callMethod "replaceAll".toList [needle, replacement] := by
  have hreplace := StringMethod.callReplaceAll_eq_build s [needle, replacement]
  have htexts : Text.replaceAll (argText [needle, replacement] 0) (argText [needle, replacement] 1) s
      = Text.join replacement.toText (Text.splitOn needle.toText s) :=
    Text.replaceAll_eq_intercalate h _ s
  rw [htexts] at hreplace
  exact (splitJoin_eq_build h s replacement).trans hreplace.symm

/-- **Splitting and joining.** The pieces of a string between the occurrences of a separator, joined
with the separator, are the string; the separator may be empty. Joined with anything else they are
the string with the separator replaced, and there is nothing to tell the two ways apart, not even
their errors. -/
theorem split_join_coherent (s : Text) (separator needle replacement : Value)
    (hneedle : needle.toText ≠ []) :
    (s.byteSize ≤ maxStringBytes → splitJoin s separator separator = .ok (.string s)) ∧
      (string s).callMethod "replaceAll".toList [needle, replacement] =
        splitJoin s needle replacement ∧
      ∃ pieces, Text.CutAt needle.toText s pieces ∧
        (string s).callMethod "split".toList [needle] = .ok (strings pieces) ∧
        ((Text.join replacement.toText pieces).byteSize ≤ maxStringBytes →
          splitJoin s needle replacement =
            .ok (.string (Text.join replacement.toText pieces))) := by
  refine ⟨fun hs => ?_, (splitJoin_eq_replaceAll hneedle s replacement).symm,
    Text.splitOn needle.toText s, Text.cutAt_splitOn hneedle s, split_of_ne hneedle s, fun ht => ?_⟩
  · rw [splitJoin_self, build_of_le hs]
  · rw [splitJoin_eq_build hneedle, build_of_le ht]

/-- Occurrences that overlap and a separator that is empty. -/
theorem split_join_coherent_overlapping :
    let s : Text := "babab".toList
    let needle : Value := .string "bab".toList
    needle.toText ≠ [] ∧ s.byteSize ≤ maxStringBytes ∧
      splitJoin s (.string []) (.string []) = .ok (.string s) ∧
      (string s).callMethod "replaceAll".toList [needle, .null] =
        .ok (.string "nullab".toList) := by
  intro s needle
  have hneedle : needle.toText ≠ [] := by decide
  have hs : s.byteSize ≤ maxStringBytes := by decide
  obtain ⟨hself, hreplace, -⟩ := split_join_coherent s (.string []) needle .null hneedle
  refine ⟨hneedle, hs, hself hs, hreplace.trans ?_⟩
  rw [splitJoin_eq_build hneedle]
  exact build_of_le (by decide)

end Value

/-! ### Lengths that are worked out beforehand -/

section

variable {o : Operation} {t : Text}

open StringMethod in
/-- The length that an operation works out before it puts texts together. `count` is what becomes of
a number that may be too large to be counted. -/
def Operation.expectedBytes? (count : Nat → Nat) : Operation → Option Nat
  | combine .add a b => if a.isTextual || b.isTextual then some (a.addBytes b) else none
  | method (.string s) name args =>
    match ofName? name with
    | some .repeat => if canRepeat args then some (repeatBytes count s args) else none
    | some .replaceAll => some (replaceAllBytes count s args)
    | _ => none
  | method (.list items) name args =>
    match ListMethod.ofName? name with
    | some .join => some (ListMethod.joinBytes items args)
    | _ => none
  | _ => none

/-- The occurrences of a text fit into the text, so what they take away is there. -/
theorem occurrences_mul_byteSize_le (needle s : Text) :
    Text.occurrences needle s * needle.byteSize ≤ s.byteSize := by
  by_cases h : needle = []
  · rw [h, Text.byteSize_nil, Nat.mul_zero]
    exact Nat.zero_le _
  · calc Text.occurrences needle s * needle.byteSize
        = needle.byteSize * ((Text.splitOn needle s).length - 1) := by
          rw [Text.length_splitOn h, Nat.add_sub_cancel, Nat.mul_comm]
      _ ≤ (Text.join needle (Text.splitOn needle s)).byteSize := by
          rw [Text.byteSize_join]
          exact Nat.le_add_left _ _
      _ = s.byteSize := by rw [Text.join_splitOn h]

/-- The length that is worked out is the length that is built, up to where counting stops. -/
theorem Operation.expectedBytes?_of_joins (count : Nat → Nat)
    (hcount : ∀ m n, count (m + count n) = count (m + n)) (h : o.joins? = some t) :
    o.expectedBytes? count = some t.byteSize ∨
      o.expectedBytes? count = some (count t.byteSize) := by
  rw [joins?.eq_def] at h
  split at h
  · split_ifs at h with htext
    cases h
    left
    rw [expectedBytes?, if_pos htext, Value.addBytes_eq]
  · rename_i s name args
    right
    split at h
    · rename_i hm
      split_ifs at h with htimes
      cases h
      simp only [expectedBytes?, hm]
      rw [if_pos htimes, StringMethod.repeatBytes_eq]
    · rename_i hm
      cases h
      simp only [expectedBytes?, hm]
      rw [StringMethod.replaceAllBytes_eq count hcount]
    · cases h
  · rename_i items name args
    left
    split at h
    · rename_i hm
      cases h
      simp only [expectedBytes?, hm]
      rw [ListMethod.joinBytes_eq]
    · cases h
  · cases h

/-- **Lengths.** What puts texts together gives the text exactly if it is not too long. The length
that is worked out beforehand is that of the text. Where counting stops at some number, the length is
right below it, and the text is found too long in the same cases. Nothing is subtracted that is not
there. -/
theorem Operation.joins_exactly (h : o.joins? = some t) :
    (∀ v, o.result = .ok v ↔ t.byteSize ≤ maxStringBytes ∧ v = .string t) ∧
      (∃ bytes, o.expectedBytes? id = some bytes ∧ bytes = t.byteSize ∧
        o.result = (do checkBytes bytes; return .string t)) ∧
      (∀ top, maxStringBytes < top → ∃ bytes, o.expectedBytes? (min top) = some bytes ∧
        (bytes < top → bytes = t.byteSize) ∧
        (bytes ≤ maxStringBytes ↔ t.byteSize ≤ maxStringBytes)) ∧
      ∀ needle s, Text.occurrences needle s * Text.byteSize needle ≤ s.byteSize := by
  refine ⟨fun v => ?_, ⟨t.byteSize, ?_, rfl, joined_result h⟩, fun top htop => ?_,
    occurrences_mul_byteSize_le⟩
  · rw [joined_result h, build_eq_ok_iff]
  · exact (expectedBytes?_of_joins id (fun _ _ => rfl) h).elim id id
  · have hcount (m n : Nat) : min top (m + min top n) = min top (m + n) := by omega
    rcases expectedBytes?_of_joins (min top) hcount h with hbytes | hbytes
    · exact ⟨_, hbytes, fun _ => rfl, Iff.rfl⟩
    · exact ⟨_, hbytes, fun hlt => by omega, by omega⟩

/-- Null in a list is joined as an empty text. -/
theorem Operation.joins_exactly_null :
    let o : Operation :=
      .method (.list [.string ['a'], .null, .string ['b']]) "join".toList [.string ['-']]
    let t : Text := "a--b".toList
    o.joins? = some t ∧ o.result = .ok (.string t) ∧ o.expectedBytes? id = some 4 := by
  intro o t
  have h : o.joins? = some t := rfl
  obtain ⟨hresult, ⟨bytes, hbytes, heq, -⟩, -⟩ := Operation.joins_exactly h
  exact ⟨h, (hresult _).mpr ⟨by decide, rfl⟩, by rw [hbytes, heq]; rfl⟩

end

end LiveSnippet.Script
