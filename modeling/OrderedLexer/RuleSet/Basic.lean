import OrderedLexer.Rule
import OrderedLexer.RuleSet.OrderKey

/-!
# Rule sets

A rule set holds rules in orders. `RuleSet.rules` lists them as they are tried: order by order, and
inside an order from the highest priority to the lowest, rules of one priority as they came in.

* `RuleSet.insert?` refuses an order below the floor; `RuleSet.insertHere` inserts at the cursor.
* `RuleSet.advance` moves the cursor to the next order and creates it.
* `RuleSet.Orders.atKey` changes one order; it keeps the keys ascending.
-/

namespace OrderedLexer

namespace RuleSet

/-- The rules of each order. -/
abbrev Orders := List (OrderKey × List Rule)

/-- Put a rule behind all rules of at least its priority. Only the last rule is looked at if the
    rule can stand behind it; otherwise the first rule of lower priority is searched for. -/
def insertByPriority (r : Rule) (rules : List Rule) : List Rule :=
  match rules.getLast? with
  | none => [r]
  | some last =>
    if r.priority ≤ last.priority then rules ++ [r]
    else rules.insertIdx (rules.findIdx (·.priority < r.priority)) r

namespace Orders

/-- The keys ascend strictly. -/
def Ascending (orders : Orders) : Prop := orders.Pairwise (·.1 < ·.1)

/-- Change the rules under a key; an absent order counts as empty and is created. -/
def atKey (key : OrderKey) (f : List Rule → List Rule) : Orders → Orders
  | [] => [(key, f [])]
  | (k, rules) :: rest =>
    if key < k then (key, f []) :: (k, rules) :: rest
    else if key = k then (k, f rules) :: rest
    else (k, rules) :: atKey key f rest

theorem mem_atKey {key : OrderKey} {f : List Rule → List Rule} {orders : Orders}
    {o : OrderKey × List Rule} (h : o ∈ atKey key f orders) : o.1 = key ∨ o ∈ orders := by
  induction orders with
  | nil => simp_all [atKey]
  | cons p rest ih =>
    obtain ⟨k, rules⟩ := p
    rw [atKey] at h
    split at h
    · rcases List.mem_cons.1 h with rfl | h
      · exact .inl rfl
      · exact .inr h
    · split at h
      · next hk =>
        rcases List.mem_cons.1 h with rfl | h
        · exact .inl hk.symm
        · exact .inr (List.mem_cons_of_mem _ h)
      · rcases List.mem_cons.1 h with rfl | h
        · exact .inr List.mem_cons_self
        · exact (ih h).imp_right (List.mem_cons_of_mem _)

theorem Ascending.atKey {orders : Orders} (h : orders.Ascending) (key : OrderKey)
    (f : List Rule → List Rule) : (orders.atKey key f).Ascending := by
  induction orders with
  | nil => simp [Orders.atKey, Ascending]
  | cons p rest ih =>
    obtain ⟨k, rules⟩ := p
    have ⟨hk, hrest⟩ := List.pairwise_cons.1 h
    rw [Orders.atKey]
    split
    · next hlt =>
      refine List.pairwise_cons.2 ⟨fun o ho => ?_, h⟩
      rcases List.mem_cons.1 ho with rfl | ho
      · exact hlt
      · exact Int.lt_trans hlt (hk o ho)
    · next hnlt =>
      split
      · exact List.pairwise_cons.2 ⟨hk, hrest⟩
      · next hne =>
        refine List.pairwise_cons.2 ⟨fun o ho => ?_, ih hrest⟩
        rcases mem_atKey ho with ho | ho
        · have hne' : key.val ≠ k.val := fun e => hne (OrderKey.ext e)
          have : ¬ key.val < k.val := hnlt
          show k.val < o.1.val
          rw [ho]
          omega
        · exact hk o ho

end Orders
end RuleSet

/-- Rules in orders, with the cursor at which rules are inserted and the lowest order allowed. -/
structure RuleSet where
  orders : RuleSet.Orders
  ascending : orders.Ascending
  cursor : OrderKey
  floor : Option OrderKey
deriving DecidableEq

/-- An order that lies below the floor. -/
structure InvalidOrder where
  order : OrderKey
  floor : OrderKey
deriving DecidableEq

def InvalidOrder.message (e : InvalidOrder) : String :=
  s!"order {e.order.display} is less than minimum order {e.floor.display}"

namespace RuleSet

/-- The empty rule set; with a floor, the cursor starts there, and otherwise at 0. -/
def start (floor : Option OrderKey) : RuleSet where
  orders := []
  ascending := List.Pairwise.nil
  cursor := floor.getD OrderKey.zero
  floor := floor

/-- The empty rule set without a floor. -/
def new : RuleSet := start none

/-- The empty rule set with a floor. -/
def startingAt (floor : OrderKey) : RuleSet := start (some floor)

/-! ### Changes -/

/-- Insert a rule into an order, whatever the floor. -/
def insertAt (set : RuleSet) (key : OrderKey) (r : Rule) : RuleSet :=
  { set with
    orders := set.orders.atKey key (insertByPriority r)
    ascending := set.ascending.atKey key _ }

/-- The refusal of an order below the floor. -/
def refusal? (floor : Option OrderKey) (key : OrderKey) : Option InvalidOrder :=
  floor.bind fun floor => if key < floor then some ⟨key, floor⟩ else none

/-- Insert a rule into an order, which must not lie below the floor. -/
def insert? (set : RuleSet) (key : OrderKey) (r : Rule) : Except InvalidOrder RuleSet :=
  match refusal? set.floor key with
  | some refused => .error refused
  | none => .ok (set.insertAt key r)

/-- Insert rules, each into its order, up to the first that is refused. -/
def insertAll? (set : RuleSet) (entries : List (OrderKey × Rule)) : Except InvalidOrder RuleSet :=
  entries.foldlM (fun set e => set.insert? e.1 e.2) set

/-- Insert a rule into the order at the cursor. -/
def insertHere (set : RuleSet) (r : Rule) : RuleSet := set.insertAt set.cursor r

/-- Insert rules into the order at the cursor, one after the other. -/
def extendHere (set : RuleSet) (rules : List Rule) : RuleSet := rules.foldl insertHere set

/-- Move the cursor to the next order and create that order. -/
def advance (set : RuleSet) : RuleSet :=
  { set with
    orders := set.orders.atKey set.cursor.next id
    ascending := set.ascending.atKey _ _
    cursor := set.cursor.next }

/-- A rule set with one rule, which silently consumes blanks before any other rule is tried. -/
def skippingWhitespace : Except InvalidPattern RuleSet :=
  (Rule.ofPattern "\\s+" .immediate false).map new.insertHere

/-! ### Views -/

/-- The rules of an order, if it exists. -/
def order? (set : RuleSet) (key : OrderKey) : Option (List Rule) := set.orders.lookup key

/-- The rules as they are tried. -/
def rules (set : RuleSet) : List Rule := set.orders.flatMap (·.2)

def size (set : RuleSet) : Nat := set.rules.length

def isEmpty (set : RuleSet) : Bool := set.size = 0

/-- The orders with their rules, between braces. -/
def display (set : RuleSet) : String :=
  let order (o : OrderKey × List Rule) : String :=
    o.1.display ++ "=[" ++ ", ".intercalate (o.2.map Rule.display) ++ "]"
  "\x7b" ++ ", ".intercalate (set.orders.map order) ++ "\x7d"

end RuleSet
end OrderedLexer
