import Chip8.Proofs.Listing.Rows
import Mathlib.Data.List.Induction

/-!
# What a lister has counted

A lister is asked for whole blocks and for the words at single places.  Its tally is a table with
one entry for each mnemonic that was counted.  A block starts the count anew, but a place is added
to it: the tally is that of the last block only as long as no place was listed after it.
-/
namespace Chip8.Listing

/-- What a lister is asked for. -/
inductive Request where
  | block (data : List UInt8) (base : Int)
  | place (data : List UInt8) (place base : Int)
  deriving DecidableEq, Repr

/-- The lister after a request.  Asking for a place without a word leaves it as it was. -/
def Lister.handle (l : Lister) : Request → Lister
  | .block data base => (l.list data base).1
  | .place data place base =>
    match l.listOne data place base with
    | some (after, _) => after
    | none => l

/-- The lister after some requests. -/
def Lister.handleAll (l : Lister) (requests : List Request) : Lister :=
  requests.foldl Lister.handle l

/-- The rows of the last block that was asked for, none if there was no block. -/
def lastBlock (requests : List Request) : List Row :=
  requests.foldl (fun shown request =>
    match request with
    | .block data base => rows base data
    | .place .. => shown) []

/-- The rows of the places that were listed since the last block. -/
def placesSince (requests : List Request) : List Row :=
  requests.foldl (fun shown request =>
    match request with
    | .block .. => []
    | .place data place base => shown ++ (row? data place base).toList) []

/-- What it means that a tally counts some rows: no mnemonic has two entries, and the entry of a
mnemonic is the number of its rows, so that it has none if there is no such row. -/
structure Tally.Counts (t : Tally) (shown : List Row) : Prop where
  distinct : (t.map Prod.fst).Nodup
  entry : ∀ (mnemonic : String) (k : Nat), t.lookup mnemonic = some k ↔
    0 < k ∧ k = shown.countP fun r => r.mnemonic = mnemonic

namespace Tally

theorem lookup_count (t : Tally) (name mnemonic : String) :
    (t.count name).lookup mnemonic =
      if mnemonic = name then some ((t.lookup name).getD 0 + 1) else t.lookup mnemonic := by
  induction t with
  | nil => grind [count]
  | cons first rest ih =>
    obtain ⟨m, k⟩ := first
    rw [count]
    by_cases here : m = name
    · rw [if_pos here]
      grind
    · rw [if_neg here]
      grind

theorem keys_count (t : Tally) (name : String) :
    (t.count name).map Prod.fst =
      if name ∈ t.map Prod.fst then t.map Prod.fst else t.map Prod.fst ++ [name] := by
  induction t with
  | nil => rfl
  | cons first rest ih =>
    obtain ⟨m, k⟩ := first
    rw [count]
    by_cases here : m = name
    · simp [here]
    · rw [if_neg here, List.map_cons, ih, List.map_cons]
      grind

theorem counts_nil : Counts [] [] := by
  constructor
  · exact List.nodup_nil
  · intro mnemonic k
    simp
    omega

theorem Counts.getD_lookup {t : Tally} {shown : List Row} (counts : t.Counts shown)
    (mnemonic : String) :
    (t.lookup mnemonic).getD 0 = shown.countP fun r => r.mnemonic = mnemonic := by
  have entry := counts.entry mnemonic
  cases found : t.lookup mnemonic with
  | some k => exact ((entry k).mp found).2
  | none =>
    have absent : ¬ 0 < shown.countP fun r => r.mnemonic = mnemonic := by
      intro positive
      have listed := (entry _).mpr ⟨positive, rfl⟩
      rw [found] at listed
      cases listed
    rw [Option.getD_none]
    omega

/-- A row that is counted is one more row. -/
theorem Counts.snoc {t : Tally} {shown : List Row} (counts : t.Counts shown) (r : Row) :
    (t.count r.mnemonic).Counts (shown ++ [r]) := by
  constructor
  · rw [keys_count]
    split
    · exact counts.distinct
    · next first => exact List.nodup_append.mpr ⟨counts.distinct, by simp, by grind⟩
  · intro mnemonic k
    rw [lookup_count, List.countP_append, List.countP_singleton, counts.getD_lookup]
    by_cases own : mnemonic = r.mnemonic
    · subst own
      simp only [if_true, decide_true, Option.some.injEq]
      omega
    · have other : ¬ r.mnemonic = mnemonic := fun same => own same.symm
      simp [own, other, counts.entry]

theorem Counts.append {t : Tally} {shown : List Row} (counts : t.Counts shown) (more : List Row) :
    Counts (more.foldl (fun t r => t.count r.mnemonic) t) (shown ++ more) := by
  induction more generalizing t shown with
  | nil => simpa using counts
  | cons r rest ih =>
    have later := ih (counts.snoc r)
    rwa [List.append_assoc, List.singleton_append] at later

/-- A tally counts no two lists of rows of which one continues the other. -/
theorem Counts.append_iff {t : Tally} {shown : List Row} (more : List Row)
    (counts : t.Counts (shown ++ more)) : t.Counts shown ↔ more = [] := by
  constructor
  · intro shorter
    cases more with
    | nil => rfl
    | cons r rest =>
      have all := counts.getD_lookup r.mnemonic
      rw [shorter.getD_lookup, List.countP_append, List.countP_cons_of_pos (by simp)] at all
      omega
  · rintro rfl
    simpa using counts

end Tally

theorem handleAll_snoc (l : Lister) (earlier : List Request) (request : Request) :
    l.handleAll (earlier ++ [request]) = (l.handleAll earlier).handle request := by
  rw [Lister.handleAll, List.foldl_append]
  rfl

/-- A tally counts the rows of the last block and of the places listed after it. -/
theorem counts_handleAll (requests : List Request) :
    (Lister.handleAll {} requests).tally.Counts (lastBlock requests ++ placesSince requests) := by
  induction requests using List.reverseRecOn with
  | nil => exact Tally.counts_nil
  | append_singleton earlier request ih =>
    rw [handleAll_snoc]
    simp only [lastBlock, placesSince, List.foldl_append, List.foldl_cons, List.foldl_nil] at ih ⊢
    cases request with
    | block data base =>
      have counted := Tally.counts_nil.append (rows base data)
      simpa [Lister.handle, Lister.list] using counted
    | place data place base =>
      cases found : row? data place base with
      | none => simpa [Lister.handle, Lister.listOne, found] using ih
      | some r =>
        have counted := ih.snoc r
        rw [List.append_assoc] at counted
        simpa [Lister.handle, Lister.listOne, found] using counted

/-- After any requests the tally of a new lister counts the rows of the last block and those of the
places that were listed since; so it counts the rows of the last block exactly if no place was
listed since. -/
theorem tally_counts (requests : List Request) :
    (Lister.handleAll {} requests).tally.Counts (lastBlock requests ++ placesSince requests) ∧
      ((Lister.handleAll {} requests).tally.Counts (lastBlock requests) ↔
        placesSince requests = []) := by
  have counts := counts_handleAll requests
  exact ⟨counts, counts.append_iff _⟩

/-- A last byte counts as data of its own kind. -/
example : (Lister.handleAll {} [.block [0x60, 0x01, 0x61, 0x02, 0x42] 0x200]).tally =
    [("LD", 2), ("DB", 1)] := by
  decide

/-- A place is counted although no block was listed. -/
theorem place_counted :
    ¬ (Lister.handleAll {} [.place [0x00, 0xE0] 0 0x200]).tally.Counts
      (lastBlock [.place [0x00, 0xE0] 0 0x200]) := by
  intro counts
  have entry := counts.entry "CLS" 1
  revert entry
  decide

end Chip8.Listing
