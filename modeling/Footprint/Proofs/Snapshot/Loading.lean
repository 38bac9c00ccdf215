import Footprint.Proofs.Symbol.Arena
import Footprint.Snapshot.Basic

/-!
# Loading a snapshot

A record that is accepted becomes the flat list of the symbols of a built table.
-/

namespace Footprint

/-- Pushing records keeps a builder one that a run reaches. -/
theorem Builder.Built.pushRecords {b b' : Builder} {rs : List SymbolRecord} (hb : b.Built)
    (h : b.pushRecords rs = .ok b') : b'.Built := by
  induction rs generalizing b with
  | nil =>
    cases h
    exact hb
  | cons r rs ih =>
    rw [Builder.pushRecords] at h
    obtain ⟨p, hpush, h⟩ := exists_of_bind_eq_ok h
    exact ih (hb.push hpush) h

/-- Declaring alias groups keeps a builder one that a run reaches. -/
theorem Builder.Built.addAliasPlaces {b b' : Builder} {groups : List (List Nat)} (hb : b.Built)
    (h : b.addAliasPlaces groups = .ok b') : b'.Built := by
  induction groups generalizing b with
  | nil =>
    cases h
    exact hb
  | cons places rest ih =>
    rw [Builder.addAliasPlaces] at h
    obtain ⟨members, -, h⟩ := exists_of_bind_eq_ok h
    obtain ⟨p, hadd, h⟩ := exists_of_bind_eq_ok h
    exact ih (hb.addAliasGroup hadd) h

/-- The symbols of an accepted record are the flat list of what one builder freezes, whatever the
stamp, and there is no other view yet. -/
theorem Snapshot.exists_builder_of_ofRecord {r : SnapshotRecord} {stamp : Stamp}
    {snapshot : Logged Snapshot} (h : ofRecord r stamp = .ok snapshot) :
    ∃ b : Builder, b.Built ∧ snapshot.value.listing = { raw := .ofTable (b.freeze stamp).value } ∧
      ∀ stamp', ∃ snapshot', ofRecord r stamp' = .ok snapshot' ∧
        snapshot'.value.listing = { raw := .ofTable (b.freeze stamp').value } := by
  unfold ofRecord at h
  obtain ⟨b, hpush, h⟩ := exists_of_bind_eq_ok h
  obtain ⟨b', halias, h⟩ := exists_of_bind_eq_ok h
  have hbuilt : b'.Built := (Builder.Built.empty.pushRecords hpush).addAliasPlaces halias
  cases h
  refine ⟨b', hbuilt, rfl, fun stamp' => ⟨do
    let table ← b'.freeze stamp'
    return ⟨r.sectionSizes, { raw := .ofTable table }, r.metadata⟩, ?_, rfl⟩⟩
  simp only [ofRecord, hpush, halias, bind, Except.bind]
  rfl

/-- The symbols of an accepted record are the flat list of a built table, which has no other view
yet. -/
theorem Snapshot.exists_table_of_ofRecord {r : SnapshotRecord} {stamp : Stamp}
    {snapshot : Logged Snapshot} (h : ofRecord r stamp = .ok snapshot) :
    ∃ t : Table, t.Built ∧ snapshot.value.listing = { raw := .ofTable t } := by
  obtain ⟨b, hbuilt, hlisting, -⟩ := exists_builder_of_ofRecord h
  exact ⟨_, ⟨b, hbuilt, stamp, rfl⟩, hlisting⟩

end Footprint
