import HitCounter.Proofs.Store.SizeColumn
import HitCounter.Store.Basic
import Mathlib.Data.List.Forall2

/-!
# Batches of hits

A batch whose hits all belong to sites of the table is stored, one row for each hit in the order of
the batch (`Database.persistHits_known`). Any other batch is refused and changes nothing, wherever
its first stray hit stands (`Database.persistHits_stray`).

What a row holds of a hit is `HitRow.Records`, column by column; it determines the row
(`HitRow.records_iff`).
-/

namespace HitCounter

/-! ## Rows -/

namespace HitRow

/-- The row records the hit: each column holds what the hit has. The column of the size holds the
entries between commas, from which the size can be read again, and that of the time holds the whole
seconds. -/
structure Records (row : HitRow) (h : Hit) : Prop where
  site : row.site = h.site
  path : row.path = h.path
  title : row.title = h.title
  referrer : row.referrer = h.referrer
  query : row.query = h.query
  event : row.event = h.event
  size : row.size.toList = List.intercalate [','] (h.size.map (·.positional))
  size_read : (∀ x ∈ h.size, x.isNaN = false) → sizeOfText row.size = .ok h.size
  bot : row.bot = h.bot
  userAgent : row.userAgent = h.userAgent
  remoteAddr : row.remoteAddr = h.remoteAddr
  location : row.location = h.location
  language : row.language = h.language
  createdAt : ∃ nanos, 0 ≤ nanos ∧ nanos < 1000000000 ∧
    row.createdAt * 1000000000 + nanos = h.createdAt

variable {row : HitRow} {h : Hit} {rows : List HitRow} {batch : List Hit}

theorem records_toRow (h : Hit) : h.toRow.Records h where
  site := rfl
  path := rfl
  title := rfl
  referrer := rfl
  query := rfl
  event := rfl
  size := String.toList_ofList
  size_read := sizeOfText_sizeColumn
  bot := rfl
  userAgent := rfl
  remoteAddr := rfl
  location := rfl
  language := rfl
  createdAt := ⟨h.createdAt.fmod 1000000000, Int.fmod_nonneg_of_pos _ (by decide),
    Int.fmod_lt_of_pos _ (by decide), Int.fdiv_mul_add_fmod _ _⟩

/-- Nothing but the row of the hit records it. -/
theorem Records.eq_toRow (hrow : row.Records h) : row = h.toRow := by
  have hsize : row.size = sizeColumn h.size := String.toList_inj.mp
    (hrow.size.trans (records_toRow h).size.symm)
  have hsecond : row.createdAt = h.toRow.createdAt := by
    obtain ⟨nanos, hlow, hhigh, heq⟩ := hrow.createdAt
    obtain ⟨nanos', hlow', hhigh', heq'⟩ := (records_toRow h).createdAt
    omega
  cases row
  simp only [Hit.toRow, HitRow.mk.injEq]
  exact ⟨hrow.site, hrow.path, hrow.title, hrow.referrer, hrow.query, hrow.event, hsize, hrow.bot,
    hrow.userAgent, hrow.remoteAddr, hrow.location, hrow.language, hsecond⟩

theorem records_iff : row.Records h ↔ row = h.toRow :=
  ⟨Records.eq_toRow, fun heq => heq ▸ records_toRow h⟩

/-- One row for each hit, in the order of the hits. -/
theorem forall₂_records_iff : List.Forall₂ Records rows batch ↔ rows = batch.map Hit.toRow := by
  rw [show Records = fun row h => row = h.toRow from funext₂ fun _ _ => propext records_iff,
    ← List.forall₂_map_right_iff (f := Hit.toRow) (R := Eq), List.forall₂_eq_eq_eq]

end HitRow

/-! ## Batches -/

namespace Tables

/-- Every hit belongs to a site of the table. -/
def Knows (t : Tables) (batch : List Hit) : Prop := ∀ h ∈ batch, h.site ∈ t.sites.map (·.id)

variable {t : Tables} {h : Hit} {batch : List Hit}

instance : Decidable (t.Knows batch) := inferInstanceAs (Decidable (∀ h ∈ batch, _))

theorem byId?_isSome_iff {id : Int} : (t.byId? id).isSome ↔ id ∈ t.sites.map (·.id) := by
  rw [byId?, List.find?_isSome, List.mem_map]
  simp only [beq_iff_eq]

theorem knows_cons : t.Knows (h :: batch) ↔ h.site ∈ t.sites.map (·.id) ∧ t.Knows batch :=
  List.forall_mem_cons

theorem insertHit_known (hk : h.site ∈ t.sites.map (·.id)) :
    t.insertHit h = .ok { t with hits := t.hits ++ [h.toRow] } := by
  rw [insertHit, if_pos (byId?_isSome_iff.mpr hk)]

theorem insertHit_stray (hk : h.site ∉ t.sites.map (·.id)) :
    t.insertHit h = .error .foreignKey := by
  rw [insertHit, if_neg (mt byId?_isSome_iff.mp hk)]

theorem foldlM_insertHit_known (hk : t.Knows batch) :
    batch.foldlM insertHit t = .ok { t with hits := t.hits ++ batch.map Hit.toRow } := by
  induction batch generalizing t with
  | nil =>
    rw [List.map_nil, List.append_nil]
    rfl
  | cons h batch ih =>
    obtain ⟨hfirst, hmore⟩ := knows_cons.mp hk
    have hnext : Knows { t with hits := t.hits ++ [h.toRow] } batch := hmore
    rw [List.foldlM_cons, insertHit_known hfirst]
    change batch.foldlM insertHit { t with hits := t.hits ++ [h.toRow] } = _
    rw [ih hnext, List.map_cons, List.append_assoc, List.singleton_append]

theorem foldlM_insertHit_stray (hk : ¬ t.Knows batch) :
    batch.foldlM insertHit t = .error .foreignKey := by
  induction batch generalizing t with
  | nil => exact absurd (List.forall_mem_nil _) hk
  | cons h batch ih =>
    rw [List.foldlM_cons]
    by_cases hfirst : h.site ∈ t.sites.map (·.id)
    · rw [insertHit_known hfirst]
      exact ih fun hmore => hk (knows_cons.mpr ⟨hfirst, hmore⟩)
    · rw [insertHit_stray hfirst]
      rfl

theorem countHits_append (id : Int) :
    countHits { t with hits := t.hits ++ batch.map Hit.toRow } id =
      t.countHits id + batch.countP (·.site == id) := by
  rw [countHits, countHits, List.countP_append, List.countP_map]
  rfl

end Tables

namespace Database

variable {t : Tables} {batch : List Hit}

/-- The rows of hits that are stored. -/
def hitRows (db : Database) : List HitRow := (db.tables.map (·.hits)).getD []

/-- A batch of known hits is stored as it is. -/
theorem persistHits_known (hk : t.Knows batch) : persistHits batch ⟨some t⟩ =
    (.ok batch.length, ⟨some { t with hits := t.hits ++ batch.map Hit.toRow }⟩) := by
  cases batch with
  | nil => simp [persistHits]
  | cons h batch => simp only [persistHits, hits, Tables.foldlM_insertHit_known hk]; rfl

/-- A batch with a stray hit is refused. -/
theorem persistHits_stray (hk : ¬ t.Knows batch) :
    persistHits batch ⟨some t⟩ = (.error .foreignKey, ⟨some t⟩) := by
  cases batch with
  | nil => exact absurd (List.forall_mem_nil _) hk
  | cons h batch => simp only [persistHits, hits, Tables.foldlM_insertHit_stray hk]; rfl

/-- A batch, stored or refused, touches nothing but the table of hits. -/
theorem persistHits_tables (t : Tables) (batch : List Hit) :
    ∃ rows, (persistHits batch ⟨some t⟩).2 = ⟨some { t with hits := rows }⟩ := by
  by_cases hk : t.Knows batch
  · exact ⟨_, by rw [persistHits_known hk]⟩
  · exact ⟨t.hits, by rw [persistHits_stray hk]⟩

/-- Whatever the database, a batch is answered with its length and stored, or with a fault and not
stored. -/
theorem persistHits_cases (db : Database) (batch : List Hit) :
    ((db.persistHits batch).1 = .ok batch.length ∧
      (db.persistHits batch).2.hitRows = db.hitRows ++ batch.map Hit.toRow) ∨
    ∃ e, db.persistHits batch = (.error e, db) := by
  obtain ⟨tables⟩ := db
  cases tables with
  | some t =>
    by_cases hk : t.Knows batch
    · rw [persistHits_known hk]
      exact .inl ⟨rfl, rfl⟩
    · exact .inr ⟨_, persistHits_stray hk⟩
  | none =>
    cases batch with
    | nil => exact .inl ⟨rfl, rfl⟩
    | cons h batch => exact .inr ⟨.noTable "hits", rfl⟩

theorem createSite_hitRows (db : Database) (host : String) (settings : Settings) :
    (db.createSite host settings).2.hitRows = db.hitRows := by
  obtain ⟨tables⟩ := db
  cases tables with
  | none => rfl
  | some t =>
    simp only [createSite, sites]
    split <;> rfl

theorem updateSettings_hitRows (db : Database) (id : Int) (settings : Settings) :
    (db.updateSettings id settings).2.hitRows = db.hitRows := by
  obtain ⟨tables⟩ := db
  cases tables <;> rfl

end Database

end HitCounter
