import PuppetRegistry.Sqlite.Affinity
import PuppetRegistry.Fault
import PuppetRegistry.Statement

/-!
# The puppet table

The rows of the table in the order of their insertion, and what reading and writing statements do to
them. A user has one row at most; rows without a user are not restricted. Main statement: a
conditional update keeps the users of the rows.
-/

namespace PuppetRegistry.Sqlite

/-- Rows in the order of their insertion. -/
abbrev Table := List Row

namespace Table

def ofUser (user : Cell) (r : Row) : Bool :=
  user != .null && r.user == user

/-- Whether a cell is less than a whole number. Numbers come before texts, and texts before blobs;
null is not compared. -/
def ltInt (c : Cell) (i : Int) : Bool :=
  match c with
  | .int j => decide (j < i)
  | .real x => x.ltInt i
  | .bool b => decide ((if b then 1 else 0) < i)
  | .null | .text _ | .blob _ => false

/-- Whether a cell is less than a bound, which is a whole number in every statement. -/
def isLess (c bound : Cell) : Bool :=
  match bound with
  | .int i => ltInt c i
  | .null | .bool _ | .real _ | .text _ | .blob _ => false

/-- Change the rows that a condition picks. How many there are. -/
def updateWhere (picked : Row → Bool) (f : Row → Row) (t : Table) : Table × Nat :=
  (t.map fun r => if picked r then f r else r, t.countP picked)

def insert (r : Row) (t : Table) : Except SqliteError (Table × Nat) :=
  if t.any (ofUser r.user) then .error .userTaken else .ok (t ++ [r], 1)

def deleteWhere (picked : Row → Bool) (t : Table) : Table × Nat :=
  (t.filter fun r => !picked r, t.countP picked)

theorem users_updateWhere (picked : Row → Bool) {f : Row → Row} (hf : ∀ r, (f r).user = r.user)
    (t : Table) : (updateWhere picked f t).1.map Row.user = t.map Row.user := by
  simp only [updateWhere, List.map_map]
  congr 1
  funext r
  by_cases h : picked r <;> simp [h, hf]

/-! ## Order -/

def typeRank : Cell → Nat
  | .null => 0
  | .bool _ | .int _ | .real _ => 1
  | .text _ => 2
  | .blob _ => 3

/-- The order of codes by the first one that differs. -/
def codesLe (s t : List Nat) : Bool :=
  !List.lex t s fun a b => decide (a < b)

/-- The order of users: nobody, then texts by code points, then blobs by bytes. -/
def userLe (a b : Row) : Bool :=
  match a.user, b.user with
  | .text s, .text t => codesLe (s.toList.map Char.toNat) (t.toList.map Char.toNat)
  | .blob s, .blob t => codesLe (s.map UInt8.toNat) (t.map UInt8.toNat)
  | c, d => typeRank c ≤ typeRank d

def sorted (t : Table) : Table :=
  t.mergeSort userLe

end Table

end PuppetRegistry.Sqlite
