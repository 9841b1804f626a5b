/-!
# Chains of linked nodes

A `Chain` lives in a memory of nodes, each at an address of its own.  From its tail, links lead from
node to node up to its head.  The node at the tail is a stub: it has lost its value, or never had
one, and the waiting values are those of the nodes behind it.  One end of a chain is where nodes are
added and the other one where they are taken; neither knows of the other, and a counter follows
both.

Memory that is not there must not be touched, so operations may end in a fault.  `Chain.Holds` says
what a chain in order looks like; such a chain runs into no fault and stays in order.
-/

namespace SwapFeed

/-- A value and the address of the next node.  The stub has no value and the last node no next. -/
structure Node (α : Type) where
  value : Option α := none
  next : Option Nat := none
  deriving Repr

/-- A misuse of memory. -/
inductive ChainFault where
  /-- No node is allocated at the address. -/
  | dangling (address : Nat)
  /-- The node at the address has no value to take. -/
  | valueless (address : Nat)
  deriving DecidableEq, Repr

/-- The allocated nodes with their addresses, in the order of allocation. -/
abbrev Nodes (α : Type) := List (Nat × Node α)

variable {α : Type}

namespace Nodes

/-- The node at an address. -/
def read (nodes : Nodes α) (address : Nat) : Except ChainFault (Node α) :=
  match nodes.lookup address with
  | some node => .ok node
  | none => .error (.dangling address)

def addresses (nodes : Nodes α) : List Nat := nodes.map Prod.fst

@[simp] theorem addresses_cons (entry : Nat × Node α) (nodes : Nodes α) :
    addresses (entry :: nodes) = entry.1 :: nodes.addresses := rfl

@[simp] theorem addresses_append (nodes others : Nodes α) :
    addresses (nodes ++ others) = nodes.addresses ++ others.addresses := List.map_append

/-- Change the node at an address, if there is one. -/
def changeAt (nodes : Nodes α) (address : Nat) (change : Node α → Node α) : Nodes α :=
  nodes.map fun entry => if entry.1 = address then (address, change entry.2) else entry

/-- Write to the node at an address. -/
def update (nodes : Nodes α) (address : Nat) (change : Node α → Node α) :
    Except ChainFault (Nodes α) :=
  (nodes.read address).map fun _ => nodes.changeAt address change

/-- Give the node at an address back. -/
def free (nodes : Nodes α) (address : Nat) : Except ChainFault (Nodes α) :=
  (nodes.read address).map fun _ => nodes.filter (·.1 ≠ address)

variable {nodes : Nodes α} {address : Nat} {change : Node α → Node α}

theorem read_of_mem (member : address ∈ nodes.addresses) :
    ∃ node, nodes.read address = .ok node := by
  cases found : nodes.lookup address with
  | some node => exact ⟨node, by rw [read, found]⟩
  | none =>
      obtain ⟨entry, inside, same⟩ := List.mem_map.mp member
      have other := List.lookup_eq_none_iff.mp found entry inside
      simp [same] at other

theorem read_cons_self (node : Node α) : read ((address, node) :: nodes) address = .ok node := by
  simp [read]

theorem read_cons_of_ne {entry : Nat × Node α} (other : entry.1 ≠ address) :
    read (entry :: nodes) address = nodes.read address := by
  have differ : (address == entry.1) = false := by simpa using Ne.symm other
  rw [read, List.lookup_cons, differ]
  rfl

/-- Each node is found if no two have the same address. -/
theorem read_of_nodup (distinct : nodes.addresses.Nodup) {entry : Nat × Node α}
    (member : entry ∈ nodes) : nodes.read entry.1 = .ok entry.2 := by
  induction nodes with
  | nil => cases member
  | cons first rest step =>
      obtain ⟨apart, distinct⟩ := List.nodup_cons.mp distinct
      rcases List.mem_cons.mp member with rfl | later
      · exact read_cons_self entry.2
      · have other : first.1 ≠ entry.1 := fun same =>
          apart (same ▸ List.mem_map_of_mem later)
        rw [read_cons_of_ne other, step distinct later]

theorem update_of_mem (member : address ∈ nodes.addresses) (change : Node α → Node α) :
    nodes.update address change = .ok (nodes.changeAt address change) := by
  obtain ⟨node, found⟩ := read_of_mem member
  rw [update, found]
  rfl

theorem free_of_mem (member : address ∈ nodes.addresses) :
    nodes.free address = .ok (nodes.filter (·.1 ≠ address)) := by
  obtain ⟨node, found⟩ := read_of_mem member
  rw [free, found]
  rfl

theorem changeAt_cons_self (node : Node α) :
    changeAt ((address, node) :: nodes) address change =
      (address, change node) :: nodes.changeAt address change := by
  simp [changeAt]

theorem changeAt_cons_of_ne {entry : Nat × Node α} (other : entry.1 ≠ address) :
    changeAt (entry :: nodes) address change = entry :: nodes.changeAt address change := by
  simp [changeAt, other]

theorem changeAt_of_not_mem (absent : address ∉ nodes.addresses) :
    nodes.changeAt address change = nodes := by
  induction nodes with
  | nil => rfl
  | cons entry rest step =>
      rw [addresses_cons, List.mem_cons, not_or] at absent
      rw [changeAt_cons_of_ne (Ne.symm absent.1), step absent.2]

theorem filter_of_not_mem (absent : address ∉ nodes.addresses) :
    nodes.filter (·.1 ≠ address) = nodes := by
  rw [List.filter_eq_self]
  intro entry member
  have other : entry.1 ≠ address := fun same => absent (same ▸ List.mem_map_of_mem member)
  simpa using other

end Nodes

structure Chain (α : Type) where
  nodes : Nodes α
  /-- Where nodes are added. -/
  head : Nat
  /-- Where the stub is. -/
  tail : Nat
  count : Nat
  /-- The address of the next node to be allocated. -/
  fresh : Nat
  deriving Repr

namespace Chain

/-- A chain of a stub alone. -/
def new : Chain α where
  nodes := [(0, {})]
  head := 0
  tail := 0
  count := 0
  fresh := 1

/-- Add a value behind the head: its node becomes the head first, and is linked then. -/
def push (chain : Chain α) (value : α) : Except ChainFault (Chain α) := do
  let added := chain.fresh
  let nodes := chain.nodes ++ [(added, { value := some value })]
  let previous := chain.head
  let nodes ← nodes.update previous fun node => { node with next := some added }
  return { chain with
    nodes := nodes, head := added, count := chain.count + 1, fresh := added + 1 }

/-- Take the oldest value, if there is one.  Its node becomes the stub, and the old stub is given
back. -/
def pop? (chain : Chain α) : Except ChainFault (Option (α × Chain α)) := do
  let stub ← chain.nodes.read chain.tail
  match stub.next with
  | none => return none
  | some next =>
      let node ← chain.nodes.read next
      match node.value with
      | none => throw (.valueless next)
      | some value =>
          let nodes ← chain.nodes.update next fun node => { node with value := none }
          let nodes ← nodes.free chain.tail
          return some (value, { chain with
            nodes := nodes, tail := next, count := chain.count - 1 })

/-- Whether nothing is linked behind the stub. -/
def isEmpty (chain : Chain α) : Except ChainFault Bool := do
  let stub ← chain.nodes.read chain.tail
  return stub.next.isNone

/-- The values on the way along the links from an address, as far as a number of nodes. -/
def walk (nodes : Nodes α) : (steps : Nat) → (address : Option Nat) → List α
  | 0, _ => []
  | _ + 1, none => []
  | steps + 1, some address =>
      match nodes.read address with
      | .error _ => []
      | .ok node => node.value.toList ++ walk nodes steps node.next

/-- The values from the tail on. -/
def toList (chain : Chain α) : List α :=
  walk chain.nodes chain.nodes.length (some chain.tail)

/-! ## Chains in order -/

/-- The nodes from a node with a content on, with the addresses and values of those behind it. -/
def layout : (address : Nat) → (content : Option α) → (behind : List (Nat × α)) → Nodes α
  | address, content, [] => [(address, ⟨content, none⟩)]
  | address, content, (next, value) :: rest =>
      (address, ⟨content, some next⟩) :: layout next (some value) rest

/-- The address of the last one of these nodes. -/
def lastAddress : (address : Nat) → (behind : List (Nat × α)) → Nat
  | address, [] => address
  | _, (next, _) :: rest => lastAddress next rest

@[simp] theorem addresses_layout (address : Nat) (content : Option α) (behind : List (Nat × α)) :
    (layout address content behind).addresses = address :: behind.map Prod.fst := by
  induction behind generalizing address content with
  | nil => rfl
  | cons entry rest step => simp [layout, step]

theorem read_layout_self (address : Nat) (content : Option α) (behind : List (Nat × α)) :
    (layout address content behind).read address =
      .ok ⟨content, (behind.map Prod.fst).head?⟩ := by
  cases behind <;> simp [layout, Nodes.read]

theorem length_layout (address : Nat) (content : Option α) (behind : List (Nat × α)) :
    (layout address content behind).length = behind.length + 1 := by
  induction behind generalizing address content with
  | nil => rfl
  | cons entry rest step => simp [layout, step]

theorem lastAddress_mem (address : Nat) (behind : List (Nat × α)) :
    lastAddress address behind ∈ address :: behind.map Prod.fst := by
  induction behind generalizing address with
  | nil => simp [lastAddress]
  | cons entry rest step => exact List.mem_cons_of_mem _ (step entry.1)

theorem lastAddress_append_singleton (address : Nat) (behind : List (Nat × α)) (entry : Nat × α) :
    lastAddress address (behind ++ [entry]) = entry.1 := by
  induction behind generalizing address with
  | nil => rfl
  | cons first rest step => exact step first.1

/-- Memory has the nodes from the tail to the head and no others, each at an address of its own. -/
structure HoldsAt (chain : Chain α) (behind : List (Nat × α)) : Prop where
  nodes : chain.nodes = layout chain.tail none behind
  head : chain.head = lastAddress chain.tail behind
  count : chain.count = behind.length
  distinct : (chain.tail :: behind.map Prod.fst).Nodup
  allocated : ∀ address ∈ chain.tail :: behind.map Prod.fst, address < chain.fresh

/-- The chain from the tail to the head holds just these values, the oldest one first. -/
def Holds (chain : Chain α) (values : List α) : Prop :=
  ∃ behind, chain.HoldsAt behind ∧ behind.map Prod.snd = values

/-- A node whose value is taken is a stub. -/
theorem changeAt_layout_self {address : Nat} {behind : List (Nat × α)}
    (apart : address ∉ behind.map Prod.fst) (content : Option α) :
    Nodes.changeAt (layout address content behind) address
        (fun node => { node with value := none }) = layout address none behind := by
  cases behind with
  | nil => rw [layout, Nodes.changeAt_cons_self]; rfl
  | cons entry rest =>
      have absent : address ∉ (layout entry.1 (some entry.2) rest).addresses := by
        rw [addresses_layout]
        exact apart
      rw [layout, Nodes.changeAt_cons_self, Nodes.changeAt_of_not_mem absent]
      rfl

/-- Linking a node of its own behind the last one makes the chain one node longer. -/
theorem changeAt_layout {address added : Nat} {behind : List (Nat × α)}
    (distinct : (address :: behind.map Prod.fst).Nodup)
    (apart : added ∉ address :: behind.map Prod.fst) (content : Option α) (value : α) :
    Nodes.changeAt (layout address content behind ++ [(added, ⟨some value, none⟩)])
        (lastAddress address behind) (fun node => { node with next := some added }) =
      layout address content (behind ++ [(added, value)]) := by
  induction behind generalizing address content with
  | nil =>
      have other : added ≠ address := fun same => apart (by simp [same])
      rw [layout, lastAddress, List.singleton_append, Nodes.changeAt_cons_self,
        Nodes.changeAt_cons_of_ne other]
      rfl
  | cons entry rest step =>
      rw [List.map_cons, List.nodup_cons] at distinct
      rw [List.map_cons, List.mem_cons, not_or] at apart
      have other : address ≠ lastAddress entry.1 rest := fun same =>
        distinct.1 (same ▸ lastAddress_mem entry.1 rest)
      rw [layout, lastAddress, List.cons_append, Nodes.changeAt_cons_of_ne other,
        step distinct.2 apart.2]
      rfl

variable {chain : Chain α} {values : List α} {value : α}

theorem holds_new : (new : Chain α).Holds [] :=
  ⟨[], ⟨rfl, rfl, rfl, by simp, by simp [new]⟩, rfl⟩

theorem Holds.push (holds : chain.Holds values) (value : α) :
    ∃ after, chain.push value = .ok after ∧ after.Holds (values ++ [value]) := by
  obtain ⟨behind, inOrder, rfl⟩ := holds
  have apart : chain.fresh ∉ chain.tail :: behind.map Prod.fst := fun member =>
    Nat.lt_irrefl _ (inOrder.allocated _ member)
  have member : chain.head ∈ Nodes.addresses
      (chain.nodes ++ [(chain.fresh, { value := some value })]) := by
    rw [inOrder.nodes, inOrder.head, Nodes.addresses_append, addresses_layout]
    exact List.mem_append_left _ (lastAddress_mem chain.tail behind)
  have linked := changeAt_layout inOrder.distinct apart none value
  rw [← inOrder.head, ← inOrder.nodes] at linked
  refine ⟨_, by rw [push, Nodes.update_of_mem member, linked]; rfl,
    behind ++ [(chain.fresh, value)], ?_, by simp⟩
  have addresses : chain.tail :: (behind ++ [(chain.fresh, value)]).map Prod.fst =
      (chain.tail :: behind.map Prod.fst) ++ [chain.fresh] := by simp
  constructor
  · rfl
  · exact (lastAddress_append_singleton chain.tail behind (chain.fresh, value)).symm
  · simp [inOrder.count]
  · rw [addresses, List.nodup_append]
    refine ⟨inOrder.distinct, by simp, ?_⟩
    intro old inside new same
    rw [List.mem_singleton] at same
    rintro rfl
    exact apart (same ▸ inside)
  · intro address inside
    rw [addresses, List.mem_append, List.mem_singleton] at inside
    rcases inside with old | rfl
    · exact Nat.lt_succ_of_lt (inOrder.allocated address old)
    · exact Nat.lt_succ_self _

theorem read_tail_of_holdsAt {behind : List (Nat × α)} (inOrder : chain.HoldsAt behind) :
    chain.nodes.read chain.tail = .ok ⟨none, (behind.map Prod.fst).head?⟩ := by
  rw [inOrder.nodes, read_layout_self]

theorem Holds.isEmpty (holds : chain.Holds values) : chain.isEmpty = .ok values.isEmpty := by
  obtain ⟨behind, inOrder, rfl⟩ := holds
  rw [Chain.isEmpty, read_tail_of_holdsAt inOrder]
  cases behind <;> rfl

theorem Holds.pop?_nil (holds : chain.Holds []) : chain.pop? = .ok none := by
  obtain ⟨behind, inOrder, none⟩ := holds
  rw [List.map_eq_nil_iff] at none
  subst none
  rw [pop?, read_tail_of_holdsAt inOrder]
  rfl

/-- The oldest value leaves, and its node is the stub that the others stand behind. -/
theorem Holds.pop?_cons (holds : chain.Holds (value :: values)) :
    ∃ after, chain.pop? = .ok (some (value, after)) ∧ after.Holds values := by
  obtain ⟨behind, inOrder, found⟩ := holds
  cases behind with
  | nil => simp at found
  | cons entry rest =>
      obtain ⟨next, first⟩ := entry
      simp only [List.map_cons, List.cons.injEq] at found
      obtain ⟨rfl, rfl⟩ := found
      obtain ⟨apart, distinct⟩ := List.nodup_cons.mp inOrder.distinct
      have other : chain.tail ≠ next := fun same => apart (by simp [same])
      have stub := read_tail_of_holdsAt inOrder
      have oldest : chain.nodes.read next = .ok ⟨some first, (rest.map Prod.fst).head?⟩ := by
        rw [inOrder.nodes, layout, Nodes.read_cons_of_ne other, read_layout_self]
      have emptied : chain.nodes.update next (fun node => { node with value := none }) =
          .ok ((chain.tail, ⟨none, some next⟩) :: layout next none rest) := by
        rw [inOrder.nodes, Nodes.update_of_mem (by simp), layout, Nodes.changeAt_cons_of_ne other,
          changeAt_layout_self (List.nodup_cons.mp distinct).1]
      have freed : Nodes.free ((chain.tail, ⟨none, some next⟩) :: layout next none rest)
          chain.tail = .ok (layout next none rest) := by
        have absent : chain.tail ∉ (layout next none rest).addresses := by
          rw [addresses_layout]
          exact apart
        rw [Nodes.free_of_mem (by simp), List.filter_cons_of_neg (by simp),
          Nodes.filter_of_not_mem absent]
      refine ⟨{ chain with
        nodes := layout next none rest, tail := next, count := chain.count - 1 }, ?_, rest, ?_, rfl⟩
      · simp [pop?, stub, oldest, emptied, freed, bind, Except.bind, pure, Except.pure]
      · constructor
        · rfl
        · exact inOrder.head
        · simp [inOrder.count]
        · exact distinct
        · exact fun address inside => inOrder.allocated address (List.mem_cons_of_mem _ inside)

/-! ## The values on the way -/

/-- From a node on, the way leads through all the nodes behind it. -/
theorem walk_of_read {nodes : Nodes α} {address : Nat} {content : Option α}
    {behind : List (Nat × α)}
    (found : ∀ entry ∈ layout address content behind, nodes.read entry.1 = .ok entry.2) :
    walk nodes (behind.length + 1) (some address) = content.toList ++ behind.map Prod.snd := by
  induction behind generalizing address content with
  | nil =>
      rw [layout, List.forall_mem_singleton] at found
      rw [walk, found]
      simp [walk]
  | cons entry rest step =>
      rw [layout, List.forall_mem_cons] at found
      rw [List.length_cons, walk, found.1]
      simp [step found.2]

theorem Holds.toList_eq (holds : chain.Holds values) : chain.toList = values := by
  obtain ⟨behind, inOrder, rfl⟩ := holds
  have distinct : (layout chain.tail none behind).addresses.Nodup := by
    rw [addresses_layout]
    exact inOrder.distinct
  rw [toList, inOrder.nodes, length_layout]
  exact walk_of_read fun entry member => Nodes.read_of_nodup distinct member

end Chain

end SwapFeed
