import GeoRouting.Dict.Lookup
import GeoRouting.Json.Tree
import GeoRouting.Proofs.Json.Scanning

/-!
# Documents of values

The document that the text of a value spells is the tree of that value. Reading the tree as a value
gives it back when the fields of its objects stand in the order of their names, each once: this is
the order in which objects are read.
-/

namespace GeoRouting.Json

namespace Tree

mutual

/-- The tree that a value is read from. -/
def ofValue : Value → Tree
  | .null => .null
  | .bool b => .bool b
  | .number n => .number (some n)
  | .text s => .text (some s)
  | .array items => .array (ofItems items)
  | .object fields => .object (ofFields fields)

def ofItems : List Value → List Tree
  | [] => []
  | v :: vs => ofValue v :: ofItems vs

def ofFields : List (String × Value) → List (Option String × Tree)
  | [] => []
  | (k, v) :: fs => (some k, ofValue v) :: ofFields fs

end

theorem ofFields_eq_map (fields : List (String × Value)) :
    ofFields fields = fields.map fun f => (some f.1, ofValue f.2) := by
  induction fields with
  | nil => rfl
  | cons f fields ih => rw [ofFields, ih, List.map_cons]

end Tree

open GeoRouting.Json.Tree (ofValue ofItems ofFields)

namespace Assembly

theorem run_cons (a : Assembly) (t : Token) (ts : List Token) :
    a.run (t :: ts) = (a.step t).bind (·.run ts) := rfl

/-- Whether the tokens of a value are assembled to its tree. -/
def Assembles (v : Value) : Prop :=
  ∀ stack, (Assembly.value stack).run v.tokens = some (complete (ofValue v) stack)

/-- The tokens of a value do not close the container that it stands in. -/
theorem exists_tokens_eq_cons (v : Value) :
    ∃ t ts, v.tokens = t :: ts ∧ t ≠ .arrayClose := by
  cases v with
  | null => exact ⟨_, _, rfl, nofun⟩
  | bool b => exact ⟨_, _, rfl, nofun⟩
  | number n => exact ⟨_, _, rfl, nofun⟩
  | text s => exact ⟨_, _, rfl, nofun⟩
  | array items => exact ⟨_, _, rfl, nofun⟩
  | object fields => exact ⟨_, _, rfl, nofun⟩

theorem run_firstItem {v : Value} (h : Assembles v) (stack : List Frame) :
    (firstItem stack).run v.tokens = some (.afterItem [ofValue v] stack) := by
  have hfirst := h (.array [] :: stack)
  obtain ⟨t, ts, htokens, hclose⟩ := exists_tokens_eq_cons v
  have hstep : step (.firstItem stack) t = step (.value (.array [] :: stack)) t := by
    cases t <;> first | rfl | contradiction
  rw [htokens, run_cons] at hfirst ⊢
  rw [hstep]
  exact hfirst

/-- Further items of an array and its end. -/
theorem run_afterItem {items : List Value} (h : ∀ v ∈ items, Assembles v) (before : List Tree)
    (stack : List Frame) :
    (afterItem before stack).run ((items.flatMap fun v => .comma :: v.tokens) ++ [.arrayClose]) =
      some (complete (.array (before.reverse ++ ofItems items)) stack) := by
  induction items generalizing before with
  | nil => simp [run, step, ofItems]
  | cons v items ih =>
    have hv := h v List.mem_cons_self (.array before :: stack)
    have hrest := ih (fun w hw => h w (List.mem_cons_of_mem v hw)) (ofValue v :: before)
    rw [List.flatMap_cons, List.append_assoc, List.cons_append, run_cons]
    change (value (.array before :: stack)).run (v.tokens ++ _) = _
    rw [run_append, hv]
    simpa [complete, ofItems] using hrest

/-- Further fields of an object and its end. -/
theorem run_afterField {fields : List (String × Value)} (h : ∀ f ∈ fields, Assembles f.2)
    (before : List (Option String × Tree)) (stack : List Frame) :
    (afterField before stack).run
        ((fields.flatMap fun f => .comma :: .text (some f.1) :: .colon :: f.2.tokens) ++
          [.objectClose]) =
      some (complete (.object (before.reverse ++ ofFields fields)) stack) := by
  induction fields generalizing before with
  | nil => simp [run, step, ofFields]
  | cons f fields ih =>
    have hv := h f List.mem_cons_self (.object before (some f.1) :: stack)
    have hrest := ih (fun g hg => h g (List.mem_cons_of_mem f hg))
      ((some f.1, ofValue f.2) :: before)
    rw [List.flatMap_cons, List.append_assoc, List.cons_append, run_cons]
    change (value (.object before (some f.1) :: stack)).run (f.2.tokens ++ _) = _
    rw [run_append, hv]
    simpa [complete, ofFields] using hrest

theorem itemTokens_cons (v : Value) (items : List Value) :
    Value.itemTokens (v :: items) = v.tokens ++ items.flatMap fun w => .comma :: w.tokens := by
  induction items generalizing v with
  | nil => simp [Value.itemTokens]
  | cons w items ih => rw [Value.itemTokens, ih, List.flatMap_cons, List.cons_append]

theorem fieldTokens_cons (f : String × Value) (fields : List (String × Value)) :
    Value.fieldTokens (f :: fields) = .text (some f.1) :: .colon :: f.2.tokens ++
      fields.flatMap fun g => .comma :: .text (some g.1) :: .colon :: g.2.tokens := by
  induction fields generalizing f with
  | nil => simp [Value.fieldTokens]
  | cons g fields ih => rw [Value.fieldTokens, ih, List.flatMap_cons]; rfl

theorem assembles_of_fits {depth : Nat} {v : Value} (h : v.Fits depth) : Assembles v := by
  induction h with
  | null => exact fun stack => rfl
  | bool b => exact fun stack => rfl
  | number h => exact fun stack => rfl
  | text s => exact fun stack => rfl
  | @array depth items _ ih =>
    intro stack
    rw [Value.tokens, List.cons_append, run_cons]
    cases items with
    | nil => rfl
    | cons v items =>
      have hrest := run_afterItem (fun w hw => ih w (List.mem_cons_of_mem v hw)) [ofValue v] stack
      rw [itemTokens_cons, List.append_assoc]
      change (firstItem stack).run (v.tokens ++ _) = _
      rw [run_append, run_firstItem (ih v List.mem_cons_self)]
      exact hrest
  | @object depth fields _ ih =>
    intro stack
    rw [Value.tokens, List.cons_append, run_cons]
    cases fields with
    | nil => rfl
    | cons f fields =>
      have hv := ih f List.mem_cons_self (.object [] (some f.1) :: stack)
      have hrest := run_afterField (fun g hg => ih g (List.mem_cons_of_mem f hg))
        [(some f.1, ofValue f.2)] stack
      rw [fieldTokens_cons, List.append_assoc]
      change (value (.object [] (some f.1) :: stack)).run (f.2.tokens ++ _) = _
      rw [run_append, hv]
      exact hrest

end Assembly

/-- The text of a value spells the tree of that value. -/
theorem Tree.parse_print {depth : Nat} {v : Value} (h : v.Fits depth) :
    Tree.parse v.print = some (ofValue v) := by
  rw [Tree.parse, h.scan_print, Option.bind_some, Tree.ofTokens?, Assembly.assembles_of_fits h []]
  rfl

/-! ## Reading values -/

namespace Value

/-- Whether the fields of all objects in a value stand in the order of their names, each once. -/
inductive Ordered : Value → Prop
  | null : Ordered .null
  | bool (b : Bool) : Ordered (.bool b)
  | number (n : Number) : Ordered (.number n)
  | text (s : String) : Ordered (.text s)
  | array {items : List Value} (h : ∀ v ∈ items, Ordered v) : Ordered (.array items)
  | object {fields : List (String × Value)} (ascending : fields.Pairwise fun f g => f.1 < g.1)
      (h : ∀ f ∈ fields, Ordered f.2) : Ordered (.object fields)

end Value

namespace Tree
variable {depth room : Nat}

theorem itemValues?_ofItems {items : List Value} {f : Value → Value}
    (h : ∀ v ∈ items, (ofValue v).value? room = some (f v)) :
    itemValues? room (ofItems items) = some (items.map f) := by
  induction items with
  | nil => rfl
  | cons v items ih =>
    rw [ofItems, itemValues?, h v List.mem_cons_self,
      ih fun w hw => h w (List.mem_cons_of_mem v hw)]
    rfl

theorem fieldValues?_ofFields {fields : List (String × Value)} {f : Value → Value}
    (h : ∀ e ∈ fields, (ofValue e.2).value? room = some (f e.2)) :
    fieldValues? room (ofFields fields) = some (fields.map fun e => (e.1, f e.2)) := by
  induction fields with
  | nil => rfl
  | cons e fields ih =>
    rw [ofFields, fieldValues?, h e List.mem_cons_self,
      ih fun g hg => h g (List.mem_cons_of_mem e hg)]
    rfl

/-- A tree of a value that fits has a value. -/
theorem exists_value? {v : Value} (h : v.Fits depth) (hroom : depth ≤ room) :
    ∃ w, (ofValue v).value? room = some w := by
  induction h generalizing room with
  | null => exact ⟨_, rfl⟩
  | bool b => exact ⟨_, rfl⟩
  | number h => exact ⟨_, rfl⟩
  | text s => exact ⟨_, rfl⟩
  | @array depth items _ ih =>
    let read (v : Value) : Value := ((ofValue v).value? (room - 1)).getD .null
    have hitems : ∀ v ∈ items, (ofValue v).value? (room - 1) = some (read v) := by
      intro v hv
      obtain ⟨w, hw⟩ := @ih v hv (room - 1) (by omega)
      simp [read, hw]
    rw [ofValue, value?, if_neg (by omega), itemValues?_ofItems hitems]
    exact ⟨_, rfl⟩
  | @object depth fields _ ih =>
    let read (v : Value) : Value := ((ofValue v).value? (room - 1)).getD .null
    have hfields : ∀ e ∈ fields, (ofValue e.2).value? (room - 1) = some (read e.2) := by
      intro e he
      obtain ⟨w, hw⟩ := @ih e he (room - 1) (by omega)
      simp [read, hw]
    rw [ofValue, value?, if_neg (by omega), fieldValues?_ofFields (f := read) hfields]
    exact ⟨_, rfl⟩

/-- The tree of a value with ordered objects has that value. -/
theorem value?_ofValue {v : Value} (h : v.Fits depth) (hv : v.Ordered) (hroom : depth ≤ room) :
    (ofValue v).value? room = some v := by
  induction h generalizing room with
  | null => rfl
  | bool b => rfl
  | number h => rfl
  | text s => rfl
  | @array depth items _ ih =>
    cases hv with
    | array hitems =>
      have hread : ∀ v ∈ items, (ofValue v).value? (room - 1) = some (id v) :=
        fun v hv => ih v hv (hitems v hv) (by omega)
      rw [ofValue, value?, if_neg (by omega), itemValues?_ofItems hread, List.map_id]
      rfl
  | @object depth fields _ ih =>
    cases hv with
    | object ascending hfields =>
      have hread : ∀ e ∈ fields, (ofValue e.2).value? (room - 1) = some (id e.2) :=
        fun e he => ih e he (hfields e he) (by omega)
      have hlist : Dict.ofList fields = ⟨fields, ascending⟩ :=
        Dict.ofList_entries ⟨fields, ascending⟩
      rw [ofValue, value?, if_neg (by omega), fieldValues?_ofFields hread]
      simp [hlist]

end Tree

end GeoRouting.Json
