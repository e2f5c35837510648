import EnergyStorage.Lib.Dict
import Mathlib.Data.List.Nodup

/-! # Tables and transactions

A table numbers its rows as it takes them.  A transaction is a sequence of statements, any of
which may fail; unless all of them and the commit succeed, the database is rolled back. -/

namespace Lib
namespace Sql

variable {ρ : Type*} {δ α β : Type}

/-! ### Tables -/

/-- The rows under their numbers, in the order in which they came. -/
structure Table (ρ : Type*) where
  rows : List (Nat × ρ)
  ids : (rows.map Prod.fst).Nodup

namespace Table

def empty : Table ρ := ⟨[], List.nodup_nil⟩

/-- The number that the next row gets, one more than the largest. -/
def nextId (t : Table ρ) : Nat := (t.rows.map Prod.fst).foldr max 0 + 1

theorem le_foldr_max {ns : List Nat} {n : Nat} (h : n ∈ ns) : n ≤ ns.foldr max 0 := by
  induction ns with
  | nil => exact absurd h List.not_mem_nil
  | cons m ns ih =>
    rcases List.mem_cons.mp h with rfl | h
    · exact Nat.le_max_left _ _
    · exact Nat.le_trans (ih h) (Nat.le_max_right _ _)

theorem nextId_notMem (t : Table ρ) : t.nextId ∉ t.rows.map Prod.fst := by
  intro h
  have hle := le_foldr_max h
  unfold nextId at hle
  omega

def insert (t : Table ρ) (r : ρ) : Table ρ where
  rows := t.rows ++ [(t.nextId, r)]
  ids := by
    rw [List.map_append]
    refine t.ids.append (List.nodup_singleton _) fun n hn hlast => ?_
    obtain rfl : n = t.nextId := List.mem_singleton.mp hlast
    exact t.nextId_notMem hn

/-- `INSERT OR IGNORE`: no row is added where one clashes with it. -/
def insertOrIgnore (clash : ρ → Bool) (t : Table ρ) (r : ρ) : Table ρ :=
  if t.rows.any fun row => clash row.2 then t else t.insert r

/-- A number is that of one row. -/
theorem eq_of_mem {t : Table ρ} {n : Nat} {r r' : ρ} (h : (n, r) ∈ t.rows)
    (h' : (n, r') ∈ t.rows) : r = r' :=
  congrArg Prod.snd (List.inj_on_of_nodup_map t.ids h h' rfl)

theorem prefix_insert (t : Table ρ) (r : ρ) : t.rows <+: (t.insert r).rows :=
  List.prefix_append _ _

theorem prefix_insertOrIgnore (clash : ρ → Bool) (t : Table ρ) (r : ρ) :
    t.rows <+: (t.insertOrIgnore clash r).rows := by
  unfold insertOrIgnore
  split
  · exact List.prefix_refl _
  · exact t.prefix_insert r

/-- `SELECT id … WHERE … LIMIT 1`. -/
def idOf (wanted : ρ → Bool) (t : Table ρ) : Option Nat :=
  (t.rows.find? fun row => wanted row.2).map Prod.fst

def values (t : Table ρ) : List ρ := t.rows.map Prod.snd

@[simp] theorem values_insert (t : Table ρ) (r : ρ) : (t.insert r).values = t.values ++ [r] := by
  show (t.rows ++ [(t.nextId, r)]).map Prod.snd = _
  rw [List.map_append]
  rfl

variable {t t' : Table ρ} {wanted clash : ρ → Bool} {n : Nat}

theorem mem_of_idOf (h : t.idOf wanted = some n) : ∃ r, (n, r) ∈ t.rows ∧ wanted r = true := by
  obtain ⟨row, hfind, hn⟩ := Option.map_eq_some_iff.mp h
  refine ⟨row.2, ?_, List.find?_some (p := fun row : Nat × ρ => wanted row.2) hfind⟩
  rw [← hn]
  exact List.mem_of_find?_eq_some hfind

theorem isSome_idOf_iff : (t.idOf wanted).isSome ↔ ∃ row ∈ t.rows, wanted row.2 = true := by
  unfold idOf
  rw [Option.isSome_map, List.find?_isSome]

/-- What was found stays found while rows are only added. -/
theorem idOf_of_prefix (hrows : t.rows <+: t'.rows) (h : t.idOf wanted = some n) :
    t'.idOf wanted = some n := by
  obtain ⟨more, hmore⟩ := hrows
  obtain ⟨row, hfind, hn⟩ := Option.map_eq_some_iff.mp h
  unfold idOf
  rw [← hmore, List.find?_append, hfind]
  exact congrArg some hn

theorem insertOrIgnore_of_clash {r : ρ} (h : ∃ row ∈ t.rows, clash row.2 = true) :
    t.insertOrIgnore clash r = t :=
  if_pos (List.any_eq_true.mpr h)

/-- Only what was there, or is entered, is found after it. -/
theorem isSome_idOf_of_insertOrIgnore {r : ρ}
    (h : ((t.insertOrIgnore clash r).idOf wanted).isSome) :
    (t.idOf wanted).isSome ∨ wanted r = true := by
  unfold insertOrIgnore at h
  split at h
  · exact Or.inl h
  · obtain ⟨row, hmem, hrow⟩ := isSome_idOf_iff.mp h
    rcases List.mem_append.mp hmem with hold | hnew
    · exact Or.inl (isSome_idOf_iff.mpr ⟨row, hold, hrow⟩)
    · rw [List.mem_singleton.mp hnew] at hrow
      exact Or.inr hrow

/-- Where rows that are wanted alone clash, the entered one is found. -/
theorem isSome_idOf_insertOrIgnore {r : ρ} (hclash : ∀ r, clash r = true → wanted r = true)
    (hr : wanted r = true) : ((t.insertOrIgnore clash r).idOf wanted).isSome := by
  rw [isSome_idOf_iff]
  unfold insertOrIgnore
  split
  · rename_i h
    obtain ⟨row, hmem, hrow⟩ := List.any_eq_true.mp h
    exact ⟨row, hmem, hclash _ hrow⟩
  · exact ⟨(t.nextId, r), List.mem_append_right _ (List.mem_singleton_self _), hr⟩

end Table

/-! ### Values and bindings -/

inductive Value where
  | null
  | int (i : Int)
  | text (s : String)
  deriving DecidableEq

/-- The row of an `INSERT` whose parameters stand for the columns in their order.  The binding of
a parameter that the statement does not have is refused, and an unbound one is null. -/
def bindRow (columns : List String) (bindings : List (Nat × Value)) : Dict String Value :=
  fun column =>
    if column ∈ columns then some ((bindings.lookup (columns.idxOf column + 1)).getD .null)
    else none

/-! ### Statements -/

/-- A connection inside a transaction, with the number of statements that still succeed; none for
no failure at all. -/
structure Conn (δ : Type) where
  db : δ
  left : Option Nat

/-- What is done inside a transaction, none once it has failed. -/
abbrev Tx (δ α : Type) := StateT (Conn δ) Option α

/-- One statement, with what it does where it does not fail. -/
def statement (f : δ → Option (α × δ)) : Tx δ α := fun c =>
  if c.left = some 0 then none
  else (f c.db).map fun r => (r.1, { db := r.2, left := c.left.map (· - 1) })

theorem of_statement {f : δ → Option (α × δ)} {c c' : Conn δ} {a : α}
    (h : statement f c = some (a, c')) : f c.db = some (a, c'.db) := by
  unfold statement at h
  split at h
  · cases h
  · obtain ⟨r, hr, hc⟩ := Option.map_eq_some_iff.mp h
    rw [hr, ← (Prod.mk.inj hc).1, ← (Prod.mk.inj hc).2]

/-- Without failures a statement does what it is there for. -/
theorem statement_of_unlimited {f : δ → Option (α × δ)} {c : Conn δ} (h : c.left = none) :
    statement f c = (f c.db).map fun r => (r.1, { db := r.2, left := none }) := by
  unfold statement
  rw [h, if_neg (by simp)]
  rfl

theorem of_bind {m : Tx δ α} {f : α → Tx δ β} {c c' : Conn δ} {b : β}
    (h : (m >>= f) c = some (b, c')) : ∃ a c₁, m c = some (a, c₁) ∧ f a c₁ = some (b, c') := by
  change (m c).bind (fun r => f r.1 r.2) = _ at h
  obtain ⟨r, hm, hf⟩ := Option.bind_eq_some_iff.mp h
  exact ⟨r.1, r.2, hm, hf⟩

theorem bind_of_some {m : Tx δ α} {f : α → Tx δ β} {c c₁ : Conn δ} {a : α}
    (h : m c = some (a, c₁)) : (m >>= f) c = f a c₁ := by
  change (m c).bind (fun r => f r.1 r.2) = _
  rw [h, Option.bind_some]

/-- A loop of statements, by what holds after some of them. -/
theorem forM_induction {P : List α → Conn δ → Prop} {f : α → Tx δ Unit} {xs done : List α}
    (hstep : ∀ before x c c', x ∈ xs → P before c → f x c = some ((), c') → P (before ++ [x]) c')
    {c c' : Conn δ} (h0 : P done c) (h : xs.forM f c = some ((), c')) : P (done ++ xs) c' := by
  induction xs generalizing done c with
  | nil =>
    obtain rfl : c = c' := (Prod.mk.inj (Option.some_inj.mp h)).2
    rw [List.append_nil]
    exact h0
  | cons x xs ih =>
    obtain ⟨⟨⟩, c₁, hx, hrest⟩ := of_bind h
    rw [← List.singleton_append, ← List.append_assoc]
    exact ih (fun before y c c' hy => hstep before y c c' (List.mem_cons_of_mem x hy))
      (hstep done x c c₁ List.mem_cons_self h0 hx) hrest

/-- A loop of statements that succeed one after the other. -/
theorem forM_succeeds {P : List α → Conn δ → Prop} {Q : Conn δ → Prop} {f : α → Tx δ Unit}
    {xs done : List α}
    (hstep : ∀ before x rest c, done ++ xs = before ++ x :: rest → P before c →
      ∃ c', f x c = some ((), c') ∧ P (before ++ [x]) c')
    (hend : ∀ c, P (done ++ xs) c → Q c) {c : Conn δ} (h0 : P done c) :
    ∃ c', xs.forM f c = some ((), c') ∧ Q c' := by
  induction xs generalizing done c with
  | nil =>
    rw [List.append_nil] at hend
    exact ⟨c, rfl, hend c h0⟩
  | cons x xs ih =>
    obtain ⟨c₁, hx, h₁⟩ := hstep done x xs c rfl h0
    have hall : (done ++ [x]) ++ xs = done ++ x :: xs := by
      rw [List.append_assoc, List.singleton_append]
    obtain ⟨c', hrest, hc'⟩ := ih (by rw [hall]; exact hstep) (by rw [hall]; exact hend) h₁
    exact ⟨c', (bind_of_some hx).trans hrest, hc'⟩

theorem forM_congr {f g : α → Tx δ Unit} {xs : List α} (h : ∀ x ∈ xs, f x = g x) :
    xs.forM f = xs.forM g := by
  induction xs with
  | nil => rfl
  | cons x xs ih =>
    show (f x >>= fun _ => xs.forM f) = (g x >>= fun _ => xs.forM g)
    rw [h x List.mem_cons_self, ih fun y hy => h y (List.mem_cons_of_mem x hy)]

/-- A loop that passes over some of the elements. -/
theorem forM_ite (p : α → Prop) [DecidablePred p] (f : α → Tx δ Unit) (xs : List α) :
    (xs.forM fun x => if p x then f x else pure ()) = (xs.filter (p ·)).forM f := by
  induction xs with
  | nil => rfl
  | cons x xs ih =>
    show ((if p x then f x else pure ()) >>= fun _ => xs.forM _) = _
    rw [ih]
    by_cases hx : p x
    · rw [if_pos hx, List.filter_cons, if_pos (decide_eq_true hx)]
      rfl
    · rw [if_neg hx, List.filter_cons, if_neg (by rw [decide_eq_true_eq]; exact hx)]
      exact pure_bind () _

/-! ### Scripts -/

/-- Statements outside a transaction, with the number of them that still succeed, up to the first
that fails; what those before it have done stays. -/
def script {σ δ : Type*} (exec : σ → δ → Option δ) : Option Nat → List σ → δ → δ × Bool
  | _, [], db => (db, true)
  | left, s :: rest, db =>
    if left = some 0 then (db, false)
    else
      match exec s db with
      | none => (db, false)
      | some db' => script exec (left.map (· - 1)) rest db'

theorem script_of_some {σ δ : Type*} {exec : σ → δ → Option δ} {s : σ} {db db' : δ}
    (h : exec s db = some db') (rest : List σ) :
    script exec none (s :: rest) db = script exec none rest db' := by
  rw [script, if_neg (by simp), h]
  rfl

theorem script_of_none {σ δ : Type*} {exec : σ → δ → Option δ} {s : σ} {db : δ}
    (h : exec s db = none) (left : Option Nat) (rest : List σ) :
    script exec left (s :: rest) db = (db, false) := by
  rw [script, h]
  split <;> rfl

/-! ### Transactions -/

/-- What fails in a transaction: its beginning, the statement after so many others, or its
commit. -/
structure Faults where
  begin : Bool := false
  statement : Option Nat := none
  commit : Bool := false
  deriving DecidableEq

/-- A transaction that does not succeed is rolled back. -/
def transact (faults : Faults) (body : Tx δ Unit) (db : δ) : Option δ :=
  if faults.begin then none
  else
    match body { db, left := faults.statement } with
    | none => none
    | some r => if faults.commit then none else some r.2.db

/-- What the database is after it. -/
def afterwards (faults : Faults) (body : Tx δ Unit) (db : δ) : δ :=
  (transact faults body db).getD db

theorem of_transact {faults : Faults} {body : Tx δ Unit} {db db' : δ}
    (h : transact faults body db = some db') :
    ∃ c, body { db, left := faults.statement } = some ((), c) ∧ c.db = db' := by
  unfold transact at h
  split at h
  · cases h
  · split at h
    · cases h
    · rename_i r hr
      split at h
      · cases h
      · exact ⟨r.2, hr, Option.some_inj.mp h⟩

theorem transact_of_faultless {body : Tx δ Unit} {db : δ} :
    transact {} body db = (body { db, left := none }).map fun r => r.2.db := by
  unfold transact
  rw [if_neg Bool.false_ne_true]
  cases body { db, left := none } with
  | none => rfl
  | some r => rfl

end Sql
end Lib
