import LiveSnippet.Proofs.Decimal.Length
import LiveSnippet.Proofs.Text.Size
import LiveSnippet.Script.Interpreter

/-!
# Strings that scripts build

No operation of a script gives a string that is too long, if it is given none, with a few exceptions:
the conversion of a list or a function to a string, the change of case, and the replacement of one
occurrence do not look at the length of what they build. All others either cannot make a string
longer than those they are given, or check the length first and fail.

## Main definitions

* `Expr.literals`, `Stmt.literals`, `Program.literals`: the string literals of a script
* `Value.texts`, `Value.Bounded`: the strings in a value, none of which is too long
* `build`: a string, unless it is too long
* `Operation`, `Operation.unchecked`: what is done to values, and whether its length is checked

## Main results

* `Operation.joined_result`: what puts texts together fails exactly if the text is too long
* `Operation.bounded_result`: checked operations give no string that is too long
-/

namespace LiveSnippet.Script

/-! ### Strings in scripts and values -/

mutual

/-- The string literals in an expression. -/
def Expr.literals : Expr → List Text
  | .literal (.string s) => [s]
  | .literal _ => []
  | .list items => literalsOfAll items
  | .ident _ => []
  | .member receiver _ => receiver.literals
  | .index receiver subscript => receiver.literals ++ subscript.literals
  | .call callee args => callee.literals ++ literalsOfAll args
  | .unary _ operand => operand.literals
  | .binary _ left right => left.literals ++ right.literals
  | .conditional condition yes no => condition.literals ++ (yes.literals ++ no.literals)

/-- The string literals in expressions. -/
def Expr.literalsOfAll : List Expr → List Text
  | [] => []
  | e :: rest => e.literals ++ literalsOfAll rest

end

mutual

/-- The string literals in a statement. -/
def Stmt.literals : Stmt → List Text
  | .declare _ value => (value.map Expr.literals).getD []
  | .assign _ _ value => value.literals
  | .branch condition yes no => condition.literals ++ (literalsOfAll yes ++ literalsOfAll no)
  | .function _ _ body => literalsOfAll body
  | .result value => (value.map Expr.literals).getD []
  | .expr value => value.literals

/-- The string literals in statements. -/
def Stmt.literalsOfAll : List Stmt → List Text
  | [] => []
  | stmt :: rest => stmt.literals ++ literalsOfAll rest

end

/-- The string literals in a program. -/
def Program.literals (p : Program) : List Text := Stmt.literalsOfAll p.stmts

mutual

/-- The strings in a value. The literals of a function are among them: calls of it give them. -/
def Value.texts : Value → List Text
  | .string s => [s]
  | .list items => textsOfAll items
  | .map entries => textsOfEntries entries
  | .function decl _ => Stmt.literalsOfAll decl.body
  | _ => []

/-- The strings in values. -/
def Value.textsOfAll : List Value → List Text
  | [] => []
  | v :: rest => v.texts ++ textsOfAll rest

/-- The strings in the values of entries. -/
def Value.textsOfEntries : List (Text × Value) → List Text
  | [] => []
  | (_, v) :: rest => v.texts ++ textsOfEntries rest

end

/-- None of the texts is too long for a string. -/
def Bounded (texts : List Text) : Prop := ∀ t ∈ texts, t.byteSize ≤ maxStringBytes

instance (texts : List Text) : Decidable (Bounded texts) :=
  inferInstanceAs (Decidable (∀ t ∈ texts, t.byteSize ≤ maxStringBytes))

@[simp] theorem bounded_nil : Bounded [] := List.forall_mem_nil _

@[simp] theorem bounded_append {ts us : List Text} : Bounded (ts ++ us) ↔ Bounded ts ∧ Bounded us :=
  List.forall_mem_append

theorem Expr.bounded_literalsOfAll {es : List Expr} :
    Bounded (Expr.literalsOfAll es) ↔ ∀ e ∈ es, Bounded e.literals := by
  induction es with
  | nil => simp [literalsOfAll]
  | cons e es ih => rw [literalsOfAll, bounded_append, ih, List.forall_mem_cons]

theorem Stmt.bounded_literalsOfAll {stmts : List Stmt} :
    Bounded (Stmt.literalsOfAll stmts) ↔ ∀ stmt ∈ stmts, Bounded stmt.literals := by
  induction stmts with
  | nil => simp [literalsOfAll]
  | cons stmt stmts ih => rw [literalsOfAll, bounded_append, ih, List.forall_mem_cons]

namespace Value

/-- No string in the value is too long. -/
def Bounded (v : Value) : Prop := Script.Bounded v.texts

@[simp] theorem bounded_null : null.Bounded := bounded_nil

@[simp] theorem bounded_bool (b : Bool) : (bool b).Bounded := bounded_nil

@[simp] theorem bounded_number (x : Float) : (number x).Bounded := bounded_nil

@[simp] theorem bounded_builtin (b : Builtin) : (builtin b).Bounded := bounded_nil

@[simp] theorem bounded_string {s : Text} : (string s).Bounded ↔ s.byteSize ≤ maxStringBytes :=
  List.forall_mem_singleton

@[simp] theorem bounded_list {vs : List Value} : (list vs).Bounded ↔ ∀ v ∈ vs, v.Bounded := by
  rw [Bounded, texts]
  induction vs with
  | nil => simp [textsOfAll]
  | cons v vs ih => rw [textsOfAll, bounded_append, ih, List.forall_mem_cons, Bounded]

@[simp] theorem bounded_map {entries : List (Text × Value)} :
    (map entries).Bounded ↔ ∀ e ∈ entries, e.2.Bounded := by
  rw [Bounded, texts]
  induction entries with
  | nil => simp [textsOfEntries]
  | cons e entries ih => rw [textsOfEntries, bounded_append, ih, List.forall_mem_cons, Bounded]

theorem bounded_strings {ts : List Text} : (strings ts).Bounded ↔ Script.Bounded ts := by
  rw [strings, bounded_list, List.forall_mem_map]
  simp [Script.Bounded]

theorem bounded_of_lookup {scope : Scope} (h : ∀ e ∈ scope, e.2.Bounded) {name : Text} {v : Value}
    (hv : scope.lookup name = some v) : v.Bounded := by
  obtain ⟨l, r, rfl, -⟩ := List.lookup_eq_some_iff.mp hv
  exact h _ (List.mem_append_right _ List.mem_cons_self)

theorem bounded_entry {entries : List (Text × Value)} (h : (map entries).Bounded) (key : Text) :
    (entry entries key).Bounded := by
  rw [entry]
  cases hv : entries.lookup key with
  | none => exact bounded_null
  | some v => exact bounded_of_lookup (bounded_map.mp h) hv

/-- A number is not long as text. -/
theorem byteSize_numberText (x : Float) : (numberText x).byteSize ≤ maxStringBytes :=
  ((numberText x).byteSize_le_length.trans (Nat.mul_le_mul_right 4 (length_numberText_le x))).trans
    (by decide)

end Value

/-! ### Operations -/

/-- A string, unless it is too long. -/
def build (t : Text) : Result Value := do
  checkBytes t.byteSize
  return .string t

theorem build_eq (t : Text) :
    build t =
      if maxStringBytes < t.byteSize then .error (.stringTooLong t.byteSize)
      else .ok (.string t) := by
  rw [build, checkBytes]
  split_ifs <;> rfl

theorem bounded_of_build {t : Text} {v : Value} (h : build t = .ok v) : v.Bounded := by
  rw [build_eq] at h
  split_ifs at h with hlong
  cases h
  exact Value.bounded_string.mpr (Nat.le_of_not_lt hlong)

/-- Whether a method may build a string longer than those it is given, and does not look at its
length. -/
def StringMethod.unchecked : StringMethod → Bool
  | toUpperCase | toLowerCase | replace => true
  | _ => false

/-- What is done to values. -/
inductive Operation
  | property (v : Value) (name : Text)
  | subscript (v index : Value)
  | unary (op : UnaryOp) (v : Value)
  | combine (op : BinaryOp) (a b : Value)
  | method (receiver : Value) (name : Text) (args : List Value)
  | builtin (b : Builtin) (args : List Value)

namespace Operation

/-- The values that the operation is given. -/
def operands : Operation → List Value
  | property v _ => [v]
  | subscript v index => [v, index]
  | unary _ v => [v]
  | combine _ a b => [a, b]
  | method receiver _ args => receiver :: args
  | builtin _ args => args

/-- What the operation gives. -/
def result : Operation → Result Value
  | property v name => v.property name
  | subscript v index => v.subscript index
  | unary .neg v => .ok (.number (-v.toNumber))
  | unary .plus v => .ok (.number v.toNumber)
  | unary .not v => .ok (.bool !v.truthy)
  | combine op a b => a.combine op b
  | method receiver name args => receiver.callMethod name args
  | builtin b args => b.call args

/-- Whether the operation may build a string longer than those it is given, and does not look at its
length. -/
def unchecked : Operation → Bool
  | method (.string _) name _ => (StringMethod.ofName? name).any StringMethod.unchecked
  | method (.list _) name _ => ListMethod.ofName? name == some .toString
  | builtin .string (.list _ :: _) => true
  | builtin .string (.function .. :: _) => true
  | _ => false

end Operation

/-! ### Texts that are put together -/

section

variable {s : Text} {items args : List Value} {v : Value}

theorem Value.addBytes_eq (a b : Value) : a.addBytes b = (a.toText ++ b.toText).byteSize := by
  rw [addBytes, Text.byteSize_append]

/-- The sum of two values of which one is textual. -/
theorem Value.add_eq_build {a b : Value} (h : (a.isTextual || b.isTextual) = true) :
    a.add b = build (a.toText ++ b.toText) := by
  rw [add, if_pos h, addBytes_eq, build]

theorem StringMethod.repeatBytes_eq (count : Nat → Nat) (s : Text) (args : List Value) :
    repeatBytes count s args =
      count (Text.byteSize (List.replicate (repeatTimes args) s).flatten) := by
  rw [repeatBytes, Text.byteSize_flatten_replicate]

theorem StringMethod.callRepeat_eq_build (h : canRepeat args = true) :
    callRepeat s args = build (List.replicate (repeatTimes args) s).flatten := by
  rw [callRepeat, build, repeatBytes_eq, id, h]
  rfl

theorem StringMethod.callRepeat_eq_error (h : canRepeat args = false) :
    callRepeat s args = .error (.invalidRepeatCount (Decimal.display (repeatCount args))) := by
  rw [callRepeat, h]
  rfl

/-- Counting the replacements on their own does not change where counting stops. -/
theorem StringMethod.replaceAllBytes_eq (count : Nat → Nat)
    (hcount : ∀ m n, count (m + count n) = count (m + n)) (s : Text) (args : List Value) :
    replaceAllBytes count s args =
      count (Text.replaceAll (Value.argText args 0) (Value.argText args 1) s).byteSize := by
  rw [replaceAllBytes, hcount, Text.byteSize_replaceAll]

theorem StringMethod.callReplaceAll_eq_build (s : Text) (args : List Value) :
    callReplaceAll s args =
      build (Text.replaceAll (Value.argText args 0) (Value.argText args 1) s) := by
  rw [callReplaceAll, build, replaceAllBytes_eq id fun _ _ => rfl, id]

theorem ListMethod.joinBytes_eq (items args : List Value) :
    joinBytes items args =
      Text.byteSize (Text.join (separator args) (Value.itemTexts items)) := by
  rw [joinBytes, Text.byteSize_join, Text.byteSize_flatten]

theorem ListMethod.callJoin_eq_build (items args : List Value) :
    callJoin items args = build (Text.join (separator args) (Value.itemTexts items)) := by
  rw [callJoin, build, joinBytes_eq]

/-- The text that the operation puts together from those it is given: a sum, a string repeated, one
with all occurrences of another replaced, or joined items. -/
def Operation.joins? : Operation → Option Text
  | combine .add a b => if a.isTextual || b.isTextual then some (a.toText ++ b.toText) else none
  | method (.string s) name args =>
    match StringMethod.ofName? name with
    | some .repeat =>
      if StringMethod.canRepeat args then
        some (List.replicate (StringMethod.repeatTimes args) s).flatten
      else none
    | some .replaceAll => some (Text.replaceAll (Value.argText args 0) (Value.argText args 1) s)
    | _ => none
  | method (.list items) name args =>
    match ListMethod.ofName? name with
    | some .join => some (Text.join (ListMethod.separator args) (Value.itemTexts items))
    | _ => none
  | _ => none

/-- What puts texts together fails exactly if the text is too long. -/
theorem Operation.joined_result {o : Operation} {t : Text} (h : o.joins? = some t) :
    o.result = build t := by
  rw [joins?.eq_def] at h
  split at h
  · split_ifs at h with htext
    cases h
    exact Value.add_eq_build htext
  · rename_i s name args
    rw [result, Value.callMethod]
    split at h
    · rename_i hm
      split_ifs at h with hcount
      cases h
      rw [hm]
      exact StringMethod.callRepeat_eq_build hcount
    · rename_i hm
      cases h
      rw [hm]
      exact StringMethod.callReplaceAll_eq_build s args
    · cases h
  · rename_i items name args
    rw [result, Value.callMethod]
    split at h
    · rename_i hm
      cases h
      rw [hm]
      exact ListMethod.callJoin_eq_build items args
    · cases h
  · cases h

end

/-! ### Texts that are parts of others -/

theorem byteSize_char_le (c : Char) : Text.byteSize [c] ≤ maxStringBytes :=
  (Text.byteSize_le_length [c]).trans (show 1 * 4 ≤ maxStringBytes by decide)

theorem byteSize_trim_le (s : Text) : s.trim.byteSize ≤ s.byteSize ∧
    s.trimStart.byteSize ≤ s.byteSize ∧ s.trimEnd.byteSize ≤ s.byteSize := by
  have hstart : ∀ t : Text, t.trimStart.byteSize ≤ t.byteSize := fun t =>
    Text.byteSize_le_of_sublist (List.dropWhile_suffix _).sublist
  have hend : ∀ t : Text, t.trimEnd.byteSize ≤ t.byteSize := by
    intro t
    rw [Text.trimEnd, Text.byteSize_reverse]
    exact (hstart t.reverse).trans_eq (Text.byteSize_reverse t)
  exact ⟨(hend _).trans (hstart s), hstart s, hend s⟩

theorem sublist_slice {α : Type} (items : List α) (args : List Value) :
    (Value.slice items args).Sublist items :=
  (List.drop_sublist _ _).trans (List.take_sublist _ _)

theorem le_foldl_max (l : List Nat) (a : Nat) :
    a ≤ l.foldl Nat.max a ∧ ∀ n ∈ l, n ≤ l.foldl Nat.max a := by
  induction l generalizing a with
  | nil => simp
  | cons n l ih =>
    obtain ⟨hstart, hrest⟩ := ih (Nat.max a n)
    refine ⟨(Nat.le_max_left a n).trans hstart, List.forall_mem_cons.mpr ⟨?_, hrest⟩⟩
    exact (Nat.le_max_right a n).trans hstart

theorem StringMethod.byteSize_cycle_le (fill : Text) (count : Nat) :
    Text.byteSize (cycle fill count) ≤ count * (fill.map Char.utf8Size).foldl Nat.max 0 := by
  rw [cycle]
  split_ifs
  · exact Nat.zero_le _
  · refine (Text.byteSize_le_of_forall fun c hc => ?_).trans
      (Nat.mul_le_mul_right _ (List.length_take_le _ _))
    obtain ⟨t, ht, hct⟩ := List.mem_flatten.mp (List.mem_of_mem_take hc)
    obtain rfl := List.eq_of_mem_replicate ht
    exact (le_foldl_max _ 0).2 _ (List.mem_map_of_mem hct)

/-- What is added to a string to reach a width does not make it too long. -/
theorem StringMethod.byteSize_of_padding {s t : Text} {args : List Value}
    (h : padding s args = .ok t) : s.byteSize + t.byteSize ≤ maxStringBytes := by
  rw [padding] at h
  dsimp only at h
  generalize maxNumber _ _ = width at h
  generalize (if 1 < args.length then Value.argText args 1 else [' ']) = fill at h
  split_ifs at h with hwidth
  · cases h
  · rw [checkBytes] at h
    split_ifs at h with hlong
    · cases h
    · cases h
      -- The check is coarser: it takes every character for the longest one of the filling.
      have hcycle := byteSize_cycle_le fill (Decimal.clampToNat maxStringBytes width - s.length)
      omega

theorem StringMethod.bounded_of_padding {s : Text} {args : List Value} {v : Value}
    {padded : Text → Text} (hpadded : ∀ t, (padded t).byteSize = s.byteSize + t.byteSize)
    (hv : (padding s args >>= fun t => pure (.string (padded t))) = .ok v) : v.Bounded := by
  cases hpad : padding s args with
  | error e => simp [hpad, bind, Except.bind] at hv
  | ok t =>
    simp only [hpad, bind, Except.bind, pure, Except.pure, Except.ok.injEq] at hv
    rw [← hv, Value.bounded_string, hpadded]
    exact byteSize_of_padding hpad

namespace Value

variable {v : Value}

/-- All values but lists and functions are short as text. -/
theorem byteSize_toText (h : v.Bounded) (hlist : ∀ items, v ≠ list items)
    (hfunction : ∀ decl site, v ≠ function decl site) : v.toText.byteSize ≤ maxStringBytes := by
  cases v with
  | null => decide
  | bool b => cases b <;> decide
  | number x => exact byteSize_numberText x
  | string s => exact bounded_string.mp h
  | list items => exact absurd rfl (hlist items)
  | map entries => exact (by decide : Text.byteSize "[object Object]".toList ≤ maxStringBytes)
  | function decl site => exact absurd rfl (hfunction decl site)
  | builtin which => cases which <;> decide

theorem bounded_property {u : Value} (h : v.Bounded) {name : Text}
    (hu : v.property name = .ok u) : u.Bounded := by
  cases v with
  | map entries =>
    cases hu
    exact bounded_entry h name
  | string s =>
    cases hu
    split_ifs <;> simp
  | list items =>
    cases hu
    split_ifs <;> simp
  | null => cases hu
  | _ =>
    cases hu
    exact bounded_null

theorem bounded_subscript {u : Value} (h : v.Bounded) {index : Value}
    (hu : v.subscript index = .ok u) : u.Bounded := by
  cases v with
  | list items =>
    cases hu
    cases hitem : (index.toIndex? items.length).bind (items[·]?) with
    | none => exact bounded_null
    | some u =>
      obtain ⟨i, -, hi⟩ := Option.bind_eq_some_iff.mp hitem
      exact bounded_list.mp h u (List.mem_of_getElem? hi)
  | string s =>
    cases hu
    cases (index.toIndex? s.length).bind (s[·]?) with
    | none => exact bounded_null
    | some c => exact bounded_string.mpr (byteSize_char_le c)
  | map entries =>
    cases hu
    exact bounded_entry h _
  | null => cases hu
  | _ =>
    cases hu
    exact bounded_null

theorem bounded_combine {a b u : Value} (ha : a.Bounded) (hb : b.Bounded) {op : BinaryOp}
    (hu : a.combine op b = .ok u) : u.Bounded := by
  cases op with
  | or =>
    cases hu
    split_ifs
    exacts [ha, hb]
  | and =>
    cases hu
    split_ifs
    exacts [hb, ha]
  | add =>
    cases htext : a.isTextual || b.isTextual with
    | true => exact bounded_of_build ((add_eq_build htext).symm.trans hu)
    | false =>
      rw [combine, add, htext] at hu
      cases hu
      exact bounded_number _
  | _ =>
    cases hu
    simp

end Value

/-! ### Calls -/

section

variable {s : Text} {items args : List Value} {v : Value}

theorem StringMethod.bounded_callSplit (h : s.byteSize ≤ maxStringBytes) (args : List Value) :
    (callSplit s args).Bounded := by
  cases args with
  | nil => exact Value.bounded_list.mpr (by simpa using h)
  | cons separator args =>
    rw [callSplit]
    split_ifs
    · exact Value.bounded_strings.mpr (List.forall_mem_map.mpr fun c _ => byteSize_char_le c)
    · exact Value.bounded_strings.mpr fun p hp => (Text.byteSize_le_of_mem_splitOn hp).trans h

theorem StringMethod.bounded_call {m : StringMethod} (h : s.byteSize ≤ maxStringBytes)
    (hm : m.unchecked = false) (hv : m.call s args = .ok v) : v.Bounded := by
  cases m with
  | toUpperCase => cases hm
  | toLowerCase => cases hm
  | replace => cases hm
  | trim =>
    cases hv
    exact Value.bounded_string.mpr ((byteSize_trim_le s).1.trans h)
  | trimStart =>
    cases hv
    exact Value.bounded_string.mpr ((byteSize_trim_le s).2.1.trans h)
  | trimEnd =>
    cases hv
    exact Value.bounded_string.mpr ((byteSize_trim_le s).2.2.trans h)
  | «repeat» =>
    cases hcount : canRepeat args with
    | true => exact bounded_of_build ((callRepeat_eq_build hcount).symm.trans hv)
    | false => cases (callRepeat_eq_error hcount).symm.trans hv
  | replaceAll => exact bounded_of_build ((callReplaceAll_eq_build s args).symm.trans hv)
  | split =>
    cases hv
    exact bounded_callSplit h args
  | slice =>
    cases hv
    exact Value.bounded_string.mpr ((Text.byteSize_le_of_sublist (sublist_slice s args)).trans h)
  | charAt =>
    cases hv
    rw [Value.bounded_string]
    cases (((args[0]?).getD (Value.number 0)).toIndex? s.length).bind (s[·]?) with
    | none => exact Nat.zero_le _
    | some c => exact byteSize_char_le c
  | padStart =>
    refine bounded_of_padding (fun t => ?_) hv
    rw [Text.byteSize_append, Nat.add_comm]
  | padEnd => exact bounded_of_padding (fun t => Text.byteSize_append s t) hv
  | toString =>
    cases hv
    exact Value.bounded_string.mpr h
  | _ =>
    cases hv
    simp

theorem ListMethod.bounded_call {m : ListMethod} (h : ∀ v ∈ items, v.Bounded)
    (hargs : ∀ v ∈ args, v.Bounded) (hm : m ≠ .toString) (hv : m.call items args = .ok v) :
    v.Bounded := by
  cases m with
  | toString => exact absurd rfl hm
  | join => exact bounded_of_build ((callJoin_eq_build items args).symm.trans hv)
  | slice =>
    cases hv
    exact Value.bounded_list.mpr fun v hv => h v ((sublist_slice items args).subset hv)
  | reverse =>
    cases hv
    exact Value.bounded_list.mpr fun v hv => h v (List.mem_reverse.mp hv)
  | concat =>
    cases hv
    rw [Value.bounded_list, List.forall_mem_append]
    refine ⟨h, fun v hv => ?_⟩
    obtain ⟨arg, harg, hmem⟩ := List.mem_flatMap.mp hv
    cases arg with
    | list items => exact Value.bounded_list.mp (hargs _ harg) v hmem
    | _ =>
      obtain rfl := List.mem_singleton.mp hmem
      exact hargs _ harg
  | _ =>
    cases hv
    simp

theorem Builtin.bounded_call {b : Builtin} (hargs : ∀ v ∈ args, v.Bounded)
    (hb : b = .string → ∀ first ∈ args.head?, (∀ items, first ≠ .list items) ∧
      ∀ decl site, first ≠ .function decl site) (hv : b.call args = .ok v) : v.Bounded := by
  cases b with
  | string =>
    cases hv
    rw [Value.bounded_string]
    cases args with
    | nil => exact Nat.zero_le _
    | cons first args =>
      obtain ⟨hlist, hfunction⟩ := hb rfl first rfl
      exact Value.byteSize_toText (hargs first List.mem_cons_self) hlist hfunction
  | len =>
    rw [call] at hv
    cases hfirst : args.head?.getD .null <;> rw [hfirst] at hv <;> cases hv <;> simp
  | _ =>
    cases hv
    simp

end

/-- **Checked operations.** What an operation gives is not too long, if it is given nothing too long
and looks at the length of what it builds. -/
theorem Operation.bounded_result {o : Operation} (hoperands : ∀ v ∈ o.operands, v.Bounded)
    (ho : o.unchecked = false) {v : Value} (hv : o.result = .ok v) : v.Bounded := by
  cases o with
  | property u name => exact Value.bounded_property (hoperands u List.mem_cons_self) hv
  | subscript u index => exact Value.bounded_subscript (hoperands u List.mem_cons_self) hv
  | unary op u =>
    cases op <;>
    · cases hv
      simp
  | combine op a b =>
    rw [operands, List.forall_mem_cons, List.forall_mem_singleton] at hoperands
    exact Value.bounded_combine hoperands.1 hoperands.2 hv
  | method receiver name args =>
    rw [operands, List.forall_mem_cons] at hoperands
    obtain ⟨hreceiver, hargs⟩ := hoperands
    cases receiver with
    | string s =>
      rw [result, Value.callMethod] at hv
      rw [unchecked] at ho
      cases hm : StringMethod.ofName? name with
      | none => simp [hm] at hv
      | some m =>
        rw [hm] at hv ho
        exact StringMethod.bounded_call (Value.bounded_string.mp hreceiver) ho hv
    | list items =>
      rw [result, Value.callMethod] at hv
      rw [unchecked] at ho
      cases hm : ListMethod.ofName? name with
      | none => simp [hm] at hv
      | some m =>
        rw [hm] at hv ho
        refine ListMethod.bounded_call (Value.bounded_list.mp hreceiver) hargs ?_ hv
        rintro rfl
        simp at ho
    | _ => cases hv
  | builtin b args =>
    refine Builtin.bounded_call hoperands ?_ hv
    rintro rfl first hfirst
    obtain ⟨args, rfl⟩ : ∃ rest, args = first :: rest := List.head?_eq_some_iff.mp hfirst
    constructor
    · rintro items rfl
      cases ho
    · rintro decl site rfl
      cases ho

end LiveSnippet.Script
