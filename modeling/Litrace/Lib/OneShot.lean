import Litrace.Lib.Transition

/-!
# A consumer that handles one item

Anybody puts items into a mailbox until it is closed.  Its consumer receives one item, handles it,
and is done; it never receives another.  Receiving blocks while there is no item, and from a
closed mailbox without items it yields a default.

So of all that is put at most the first item is handled (`handled_prefix_puts`), and that one
exactly when the consumer takes its two steps after it (`handled_run_first`).

The consumer is part of the state, with the item it has received but not yet handled.  Putting,
receiving and handling are single steps, so a run is any interleaving of them, and closing may
come between any two.
-/

namespace OneShot

open Transition

universe u v

variable {α : Type u} {β : Type v}

/-- Where the consumer is. -/
inductive Consumer (α : Type u) where
  | receiving
  | received (x : α)
  | done

/-- The items that wait, whether the mailbox is closed, and what the consumer has put out. -/
structure Mailbox (α : Type u) (β : Type v) where
  items : List α
  closed : Bool
  consumer : Consumer α
  handled : List β

/-- What happens to a mailbox. -/
inductive Op (α : Type u) where
  | put (x : α)
  | close
  | receive
  | handle

/-- The item an operation puts. -/
def Op.item : Op α → Option α
  | .put x => some x
  | .close => none
  | .receive => none
  | .handle => none

namespace Mailbox

/-- The mailbox before anything happens. -/
def empty : Mailbox α β := ⟨[], false, .receiving, []⟩

section

variable (default : α) (handle : α → List β)

/-- The consumer receives. -/
def receive (m : Mailbox α β) : Mailbox α β :=
  match m.consumer with
  | .receiving =>
      match m.items with
      | x :: items => { m with items := items, consumer := .received x }
      | [] => if m.closed then { m with consumer := .received default } else m
  | .received _ => m
  | .done => m

def step (m : Mailbox α β) : Op α → Mailbox α β
  | .put x => { m with items := m.items ++ [x] }
  | .close => { m with closed := true }
  | .receive => m.receive default
  | .handle =>
      match m.consumer with
      | .receiving => m
      | .received x => { m with handled := m.handled ++ handle x, consumer := .done }
      | .done => m

end

section

variable {default : α} {handle : α → List β} {m : Mailbox α β} {x : α} {items : List α}
  {pre ops : List (Op α)}

/-! ## What a run handles -/

/-- A consumer that is done handles nothing more. -/
theorem handled_run_done (done : m.consumer = .done) :
    (run (step default handle) m ops).handled = m.handled := by
  induction ops generalizing m with
  | nil => rfl
  | cons op ops ih =>
      rw [run_cons]
      cases op with
      | put y => exact ih done
      | close => exact ih done
      | receive =>
          have stays : m.receive default = m := by rw [receive, done]
          show (run (step default handle) (m.receive default) ops).handled = m.handled
          rw [stays]
          exact ih done
      | handle =>
          have stays : step default handle m .handle = m := by rw [step, done]
          rw [stays]
          exact ih done

open scoped Classical in
/-- What has been received is handled when the consumer takes its step. -/
theorem handled_run_received (received : m.consumer = .received x) :
    (run (step default handle) m ops).handled =
      m.handled ++ if Op.handle ∈ ops then handle x else [] := by
  induction ops generalizing m with
  | nil => rw [if_neg List.not_mem_nil, List.append_nil, run_nil]
  | cons op ops ih =>
      rw [run_cons]
      simp only [List.mem_cons]
      cases op with
      | put y =>
          simp only [reduceCtorEq, false_or]
          exact ih received
      | close =>
          simp only [reduceCtorEq, false_or]
          exact ih received
      | receive =>
          have stays : m.receive default = m := by rw [receive, received]
          simp only [reduceCtorEq, false_or]
          rw [step, stays]
          exact ih received
      | handle =>
          have handles : step default handle m .handle =
              { m with handled := m.handled ++ handle x, consumer := .done } := by
            rw [step, received]
          rw [if_pos (.inl rfl), handles]
          exact handled_run_done rfl

open scoped Classical in
/-- The first item that waits is handled when the consumer takes its two steps. -/
theorem handled_run_receiving (receiving : m.consumer = .receiving) (waits : m.items = x :: items) :
    (run (step default handle) m ops).handled =
      m.handled ++ if [.receive, .handle].Sublist ops then handle x else [] := by
  induction ops generalizing m items with
  | nil => rw [if_neg nofun, List.append_nil, run_nil]
  | cons op ops ih =>
      rw [run_cons]
      simp only [List.cons_sublist_cons']
      cases op with
      | put y =>
          simp only [reduceCtorEq, false_and, or_false]
          have waits' : m.items ++ [y] = x :: (items ++ [y]) := by rw [waits, List.cons_append]
          exact ih (m := { m with items := m.items ++ [y] }) receiving waits'
      | close =>
          simp only [reduceCtorEq, false_and, or_false]
          exact ih (m := { m with closed := true }) receiving waits
      | receive =>
          have receives : step default handle m .receive =
              { m with items := items, consumer := .received x } := by
            rw [step, receive, receiving, waits]
          have steps : [Op.receive, .handle].Sublist ops ∨
              [Op.handle].Sublist ops ↔ Op.handle ∈ ops := by
            rw [List.singleton_sublist]
            exact or_iff_right_of_imp fun sub => sub.subset (.tail _ List.mem_cons_self)
          rw [receives, handled_run_received rfl]
          simp only [true_and, steps]
      | handle =>
          have stays : step default handle m .handle = m := by rw [step, receiving]
          simp only [reduceCtorEq, false_and, or_false]
          rw [stays]
          exact ih receiving waits

/-- Before anything is put the consumer waits. -/
theorem run_empty (unput : ∀ x, Op.put x ∉ pre) (opened : Op.close ∉ pre) :
    run (step default handle) empty pre = empty := by
  induction pre with
  | nil => rfl
  | cons op pre ih =>
      have stays : step default handle empty op = empty := by
        cases op with
        | put x => exact absurd List.mem_cons_self (unput x)
        | close => exact absurd List.mem_cons_self opened
        | receive => rfl
        | handle => rfl
      rw [run_cons, stays]
      exact ih (fun x mem => unput x (.tail _ mem)) fun mem => opened (.tail _ mem)

open scoped Classical in
/-- **The first item** that is put is all that a run handles, if the consumer takes its two
steps after it. -/
theorem handled_run_first (unput : ∀ x, Op.put x ∉ pre) (opened : Op.close ∉ pre) :
    (run (step default handle) empty (pre ++ .put x :: ops)).handled =
      if [.receive, .handle].Sublist ops then handle x else [] := by
  rw [run_append, run_empty unput opened, run_cons]
  have waits : (step default handle empty (.put x)).items = [x] := rfl
  exact handled_run_receiving rfl waits

/-! ## Nothing is handled twice -/

/-- What has been put is waiting, or has been handled in order. -/
def Accounts (handle : α → List β) (puts : List α) (m : Mailbox α β) : Prop :=
  match m.consumer with
  | .receiving => m.handled = [] ∧ m.items = puts
  | .received x => m.handled = [] ∧ handle x <+: puts.flatMap handle
  | .done => m.handled <+: puts.flatMap handle

/-- What was handled is a prefix of what was put, in the order of putting. -/
theorem Accounts.prefix_puts {puts : List α} (accounts : Accounts handle puts m) :
    m.handled <+: puts.flatMap handle := by
  unfold Accounts at accounts
  split at accounts
  · rw [accounts.1]
    exact List.nil_prefix
  · rw [accounts.1]
    exact List.nil_prefix
  · exact accounts

/-- A later item changes nothing for the earlier ones. -/
theorem Accounts.put {puts : List α} (accounts : Accounts handle puts m) (y : α) :
    Accounts handle (puts ++ [y]) { m with items := m.items ++ [y] } := by
  have grows : puts.flatMap handle <+: (puts ++ [y]).flatMap handle := by
    rw [List.flatMap_append]
    exact List.prefix_append _ _
  unfold Accounts at accounts ⊢
  dsimp only
  split at accounts
  · exact ⟨accounts.1, congrArg (· ++ [y]) accounts.2⟩
  · exact ⟨accounts.1, accounts.2.trans grows⟩
  · exact accounts.trans grows

/-- The item that the consumer receives is the first, or the default. -/
theorem Accounts.receive {puts : List α} (unhandled : handle default = [])
    (accounts : Accounts handle puts m) : Accounts handle puts (m.receive default) := by
  unfold Mailbox.receive
  split
  next receiving =>
    rw [Accounts, receiving] at accounts
    obtain ⟨none, rfl⟩ := accounts
    split
    next x items waits =>
      refine ⟨none, ?_⟩
      rw [waits, List.flatMap_cons]
      exact List.prefix_append _ _
    next =>
      split
      · refine ⟨none, ?_⟩
        rw [unhandled]
        exact List.nil_prefix
      · rw [Accounts, receiving]
        exact ⟨none, rfl⟩
  · exact accounts
  · exact accounts

/-- Handling does the work of the item received, and then the consumer is done. -/
theorem Accounts.handle_step {puts : List α} (accounts : Accounts handle puts m) :
    Accounts handle puts (step default handle m .handle) := by
  unfold step
  dsimp only
  split
  · exact accounts
  next x received =>
    rw [Accounts, received] at accounts
    show m.handled ++ handle x <+: puts.flatMap handle
    rw [accounts.1, List.nil_append]
    exact accounts.2
  · exact accounts

/-- The run lemma: the account holds after every sequence of operations. -/
theorem accounts_run (unhandled : handle default = []) :
    Accounts handle (ops.filterMap Op.item) (run (step default handle) empty ops) := by
  induction ops using List.reverseRecOn with
  | nil => exact ⟨rfl, rfl⟩
  | append_singleton ops op ih =>
      rw [run_concat, List.filterMap_append]
      cases op with
      | put y => exact ih.put y
      | close =>
          rw [show [Op.close].filterMap Op.item = ([] : List α) from rfl, List.append_nil]
          exact ih
      | receive =>
          rw [show [Op.receive].filterMap Op.item = ([] : List α) from rfl, List.append_nil]
          exact ih.receive unhandled
      | handle =>
          rw [show [Op.handle].filterMap Op.item = ([] : List α) from rfl, List.append_nil]
          exact ih.handle_step

/-- **At most once, in order.**  What a run handles begins what is put. -/
theorem handled_prefix_puts (unhandled : handle default = []) :
    (run (step default handle) empty ops).handled <+: (ops.filterMap Op.item).flatMap handle :=
  (accounts_run unhandled).prefix_puts

end

end Mailbox

end OneShot
