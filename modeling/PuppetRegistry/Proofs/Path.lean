import PuppetRegistry.Disk
import PuppetRegistry.Proofs.Stages

/-!
# Paths without a zero character

A zero character cannot be part of a path on a disk, and no step on the way from a text to a path
brings one in. Main statement: a directory whose path has none is never refused because of one.
-/

namespace PuppetRegistry

namespace Path

variable {p : Path}

def NulFree (p : Path) : Prop :=
  ∀ part ∈ p.parts, '\x00' ∉ part.toList

theorem mem_of_mem_splitAll {mark c : Char} {cs part : List Char} (mem : part ∈ splitAll mark cs)
    (inside : c ∈ part) : c ∈ cs := by
  induction cs generalizing part with
  | nil =>
    cases List.mem_singleton.mp mem
    exact inside
  | cons first cs ih =>
    unfold splitAll at mem
    split at mem
    · rcases List.mem_cons.mp mem with rfl | later
      · cases inside
      · exact List.mem_cons_of_mem first (ih later inside)
    · split at mem
      · cases List.mem_singleton.mp mem
        rcases List.mem_singleton.mp inside with rfl
        exact List.mem_cons_self
      · next head rest split =>
        rcases List.mem_cons.mp mem with rfl | later
        · rcases List.mem_cons.mp inside with rfl | within
          · exact List.mem_cons_self
          · exact List.mem_cons_of_mem first (ih (split ▸ List.mem_cons_self) within)
        · exact List.mem_cons_of_mem first (ih (split ▸ List.mem_cons_of_mem head later) inside)

theorem nulFree_ofText {text : String} (clear : '\x00' ∉ text.toList) : (ofText text).NulFree := by
  intro part mem inside
  obtain ⟨chars, kept, rfl⟩ := List.mem_map.mp mem
  rw [String.toList_ofList] at inside
  exact clear (mem_of_mem_splitAll (List.mem_filter.mp kept).1 inside)

theorem nul_notMem_homeText {home : String} (clear : '\x00' ∉ home.toList) :
    '\x00' ∉ (homeText home).toList := by
  unfold homeText
  dsimp only
  split
  · decide
  · rw [String.toList_ofList, List.mem_reverse]
    intro inside
    exact clear (List.mem_reverse.mp ((List.dropWhile_sublist _).subset inside))

theorem nul_notMem_homeOf {home : Option String} {accounts : Accounts} {name : List Char}
    (clear : ∀ text ∈ home, '\x00' ∉ text.toList) {text : String}
    (found : homeOf home accounts name = some text) : '\x00' ∉ text.toList := by
  unfold homeOf at found
  split at found
  · cases home with
    | some set =>
      cases found
      exact clear _ rfl
    | none =>
      obtain ⟨a, _, rfl⟩ := Option.map_eq_some_iff.mp found
      exact a.clear
  · obtain ⟨a, _, rfl⟩ := Option.map_eq_some_iff.mp found
    exact a.clear

theorem NulFree.expandHome {home : Option String} {accounts : Accounts} {q : Path} (free : p.NulFree)
    (clear : ∀ text ∈ home, '\x00' ∉ text.toList) (expanded : p.expandHome home accounts = some q) :
    q.NulFree := by
  unfold Path.expandHome at expanded
  split at expanded
  · next first rest _ parts =>
    split at expanded
    · cases expanded
      exact free
    · split at expanded
      · split at expanded
        · cases expanded
        · next named =>
          obtain ⟨home, found, rfl⟩ := Option.map_eq_some_iff.mp named
          split at expanded
          · cases expanded
          · rw [← Option.some.inj expanded]
            intro part mem
            rcases List.mem_append.mp mem with base | below
            · exact nulFree_ofText (nul_notMem_homeText (nul_notMem_homeOf clear found)) part base
            · exact free part (parts ▸ List.mem_cons_of_mem first below)
      · cases expanded
        exact free
  · cases expanded
    exact free

theorem NulFree.parent (free : p.NulFree) : p.parent.NulFree :=
  fun part mem => free part (List.dropLast_subset _ mem)

theorem notMem_intercalate {c : Char} {mark : String} (apart : c ∉ mark.toList) {parts : List String}
    (clear : ∀ part ∈ parts, c ∉ part.toList) : c ∉ (mark.intercalate parts).toList := by
  induction parts with
  | nil => simp
  | cons first rest ih =>
    have later := ih fun part mem => clear part (List.mem_cons_of_mem first mem)
    have front := clear first List.mem_cons_self
    cases rest with
    | nil => rwa [String.intercalate_singleton]
    | cons next rest =>
      rw [String.intercalate_cons_cons, String.toList_append, String.toList_append]
      simp only [List.mem_append, not_or]
      exact ⟨⟨front, apart⟩, later⟩

theorem NulFree.text (free : p.NulFree) : '\x00' ∉ p.text.toList := by
  unfold Path.text
  split
  · decide
  · rw [String.toList_append, List.mem_append, not_or]
    refine ⟨?_, notMem_intercalate (by decide) free⟩
    cases p.root with
    | here => decide
    | top => decide
    | topmost => decide

end Path

namespace Disk

open Stages

variable {d : Disk}

theorem stepFrom_ne_embeddedNull (l : Location) (part : String) :
    stepFrom l part ≠ .error .embeddedNull := by
  unfold stepFrom
  split <;> nofun

theorem enter_ne_embeddedNull (d : Disk) (l : Location) (part : String) :
    d.enter l part ≠ .error .embeddedNull := by
  intro refused
  obtain long | ⟨next, absent⟩ := bind_eq_error refused
  · exact stepFrom_ne_embeddedNull l part long
  · split at absent
    · cases absent
    · split at absent <;> cases absent

theorem lastStep_ne_embeddedNull (p : Path) (l : Location) :
    lastStep p l ≠ .error .embeddedNull := by
  unfold lastStep
  split
  · nofun
  · exact stepFrom_ne_embeddedNull l _

theorem locate_ne_embeddedNull {p : Path} (free : p.NulFree) : d.locate p ≠ .error .embeddedNull := by
  have clear : ¬ p.text.toList.contains '\x00' = true := by
    rw [List.contains_iff_mem]
    exact free.text
  unfold locate
  rw [if_neg clear]
  split
  · nofun
  · intro refused
    obtain onTheWay | ⟨l, last⟩ := bind_eq_error refused
    · exact foldlM_ne_error d.enter_ne_embeddedNull p.parts.dropLast _ onTheWay
    · exact lastStep_ne_embeddedNull p l last

theorem obstacle_of_finish {p : Path} {found : Except Obstacle Location} {e : DiskError}
    (usable : found ≠ .error .embeddedNull) (failed : (d.finish p found).1 = .error e) :
    e.obstacle ≠ .embeddedNull := by
  unfold finish at failed
  split at failed
  · cases failed
    rintro rfl
    exact usable rfl
  · split at failed
    · next occupied =>
      cases failed
      rintro rfl
      unfold ensureAt at occupied
      split at occupied
      · cases occupied
      · split at occupied <;> cases occupied
    · cases failed

theorem obstacle_of_makeDirectories {p : Path} (free : p.NulFree) {depth : Nat} {e : DiskError}
    (failed : (d.makeDirectories p depth).1 = .error e) : e.obstacle ≠ .embeddedNull := by
  induction depth generalizing p e with
  | zero =>
    cases failed
    nofun
  | succ depth ih =>
    unfold makeDirectories at failed
    split at failed
    · split at failed
      · next above =>
        cases failed
        exact ih free.parent (congrArg Prod.fst above)
      · exact obstacle_of_finish (lastStep_ne_embeddedNull p _) failed
    · exact obstacle_of_finish (locate_ne_embeddedNull free) failed

end Disk

end PuppetRegistry
