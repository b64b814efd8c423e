import BookingOffice.Proofs.Http.Requests
import BookingOffice.Proofs.Procedure.Listing

/-!
Rows that can be read. What is stored has been checked as a payload, but a time that passes the
check may leave the years that can be written once it is in UTC. A row with such a time would make
no entity. It is never kept, as each transaction that writes a row reads it again before it ends.

* `Row.Legible`: whether a row can be read, checked and made an entity of;
* `Office.Legible`: what it means that all live rows can, for everything that reads them;
* `Http.Attainable.legible`: so it is in all states that operations and requests lead to.
-/

namespace BookingOffice

variable {env : Surroundings} {office : Office} {s : Schema}

/-- Whether a row is read to an entry that passes the checks of its schema and makes an entity. -/
structure Row.Legible (s : Schema) (row : Row) (e : Entry) (draft : Draft s.fields) : Prop where
  read : row.read s.outline = .ok e
  /-- The record has the fields of the schema and nothing else. -/
  fields : e.record.keys.Perm s.fieldNames
  /-- The values are of the kinds that the fields say. -/
  kinds : ∀ f ∈ s.fields, ∃ v, e.record.get? f.name = some v ∧ v.kind = f.kind
  /-- Checked like a payload, the record passes as it is. -/
  validate : s.validate e.record.toJson = pure e.record
  /-- It makes an entity, which has this record. -/
  ofRecord : s.model.ofRecord e.record = .ok draft
  toRecord : s.model.toRecord draft = pure e.record

/-- A row that keeps an entry is legible if the entry makes an entity. -/
lemma Row.Keeps.legible_row {row : Row} {e : Entry} {draft : Draft s.fields} (h : row.Keeps s e)
    (hs : s.Fits .office) (hdraft : s.model.ofRecord e.record = .ok draft) :
    row.Legible s e draft where
  read := h.read hs
  fields := h.accepted.keys_perm hs.names
  kinds f hf := by
    obtain ⟨v, hv, hpasses⟩ := h.accepted.passes f hf
    exact ⟨v, hv, hpasses.kind_eq⟩
  validate := Schema.validate_toJson hs.names hs.times h.accepted hdraft
  ofRecord := hdraft
  toRecord := Schema.toRecord_of_ofRecord hs.names hs.times h.accepted hdraft

namespace Office

/-- What it means that no row of an office is unreadable. -/
structure Legible (env : Surroundings) (office : Office) : Prop where
  /-- Every live row makes an entity. -/
  rows : ∀ s ∈ Catalogue.schemas, ∀ row ∈ office.desk.store.liveRows s.table,
    ∃ e draft, row.Legible s e draft
  /-- Under the identifier of a live row that entity is got. -/
  got : ∀ s ∈ Catalogue.schemas, ∀ row ∈ office.desk.store.liveRows s.table, ∀ e draft,
    row.Legible s e draft → ∃ stored, (office.get env s.model row.uuid).1 = pure stored ∧
      stored.uuid = row.uuid ∧ stored.entity = draft
  /-- Under any other identifier nothing is found, and nothing else goes wrong. -/
  missing : ∀ s ∈ Catalogue.schemas, ∀ uuid,
    (∀ row ∈ office.desk.store.liveRows s.table, row.uuid ≠ uuid) →
    (office.get env s.model uuid).1 = throw (.notFound s!"{s.title} {uuid.toText} not found")
  /-- Lists with parameters that a query can set never fail. -/
  listed : ∀ s ∈ Catalogue.schemas, ∀ pairs p, Parameters.ofPairs s.fields pairs = pure p →
    ∃ answer, (office.list env s.model p).1 = pure answer

/-- No row of a sound office is unreadable. -/
theorem Sound.all_legible (h : office.Sound) : office.Legible env where
  rows s hs row hrow := by
    have hread := h.store.toReadable
    obtain ⟨e, hkeeps⟩ := hread.rows s hs row (Store.mem_liveRows_iff.1 hrow).1
    have hmem := (hread.mem_entries_iff hs).2 ⟨row, hrow, hkeeps⟩
    obtain ⟨draft, hdraft⟩ :=
      h.store.builds s hs e.uuid e ((hread.lookup?_eq_some_iff hs).2 ⟨hmem, rfl⟩)
    exact ⟨e, draft, hkeeps.legible_row (Catalogue.fits hs) hdraft⟩
  got s hs row hrow e draft hlegible := by
    have hread := h.store.toReadable
    obtain ⟨e', hkeeps⟩ := hread.rows s hs row (Store.mem_liveRows_iff.1 hrow).1
    obtain rfl : e' = e :=
      Except.ok.inj ((hkeeps.read (Catalogue.fits hs)).symm.trans hlegible.read)
    have hlookup : office.desk.store.lookup? s.outline row.uuid = some e' :=
      (hread.lookup?_eq_some_iff hs).2
        ⟨(hread.mem_entries_iff hs).2 ⟨row, hrow, hkeeps⟩, hkeeps.uuid.symm⟩
    refine ⟨_, (get_eq_pure_iff h).2 ((Procedure.ask_get_eq_pure_iff hread hs).2
      ⟨e', draft, hlookup, hlegible.ofRecord, rfl⟩), rfl, rfl⟩
  missing s hs uuid hnone := by
    have hread := h.store.toReadable
    have hlookup : office.desk.store.lookup? s.outline uuid = none := by
      refine Option.not_isSome_iff_eq_none.1 fun hsome => ?_
      obtain ⟨row, hrow, huuid⟩ := (hread.exists_lookup?_iff hs).1 hsome
      exact hnone row hrow huuid
    refine (transact_eq_throw_iff h.isOpen).2 ⟨.notFound, ?_, rfl⟩
    rw [(Procedure.isQuery_get s.model uuid).run_eq, Procedure.ask_get hread hs, hlookup]
  listed s hs pairs p hp := by
    obtain ⟨entities, hlist, -⟩ := Procedure.exists_ask_list h.store hs p
    exact ⟨_, (list_eq_pure_iff h).2 hlist⟩

end Office

/-! ### Runs -/

/-- In all states that operations and requests lead to, no row is unreadable. -/
theorem Http.Attainable.legible (h : Http.Attainable env office) : office.Legible env :=
  (Http.attainable_iff.1 h).sound.all_legible

/-- Half past midnight on the first day of the year 0, on a clock that is an hour ahead of UTC,
where it is still the year before. -/
def Moment.lost : Moment := ⟨⟨-62167217400 * 10 ^ 9, by decide⟩, 3600⟩

/-- A payment of one unit in cash. -/
def Catalogue.paymentAt (paidAt : Moment) : Draft payment.fields :=
  .cons (.filled (.ofInt 1)) (.cons (.filled "cash") (.cons (.filled paidAt) .nil))

/-- A payment at a time that UTC cannot write is not kept, one at a time with an offset is, and so
is a country that a request creates. -/
theorem Http.legible_payment_and_country :
    let ops : List Operation := [.create Catalogue.payment none (Catalogue.paymentAt .lost),
      .create Catalogue.payment none (Catalogue.paymentAt ⟨.epoch, 3600⟩)]
    let request : Http.Request :=
      { method := "POST"
        target := "/api/v1/external/country"
        headers := [⟨"content-type", Text.Utf8.encode "application/json"⟩]
        body := Text.Utf8.encode "\x7b\"name\": \"France\", \"code\": \"FR\"\x7d" }
    let office := ((Office.ofLayout .office).after .counting ops)
    let later := (Http.respond .counting none request office).2
    Http.Attainable .counting later ∧
      (later.desk.store.liveRows "payments").length = 1 ∧
      (later.desk.store.liveRows "countries").length = 1 ∧ later.Legible .counting := by
  intro ops request office later
  have hpayment : Catalogue.payment ∈ Catalogue.schemas := by decide
  have hops : ∀ op ∈ ops, op.Served := by simp [ops, Operation.Served, hpayment]
  have hoffice : Http.Attainable .counting office :=
    Http.attainable_iff.2 (Office.Reachable.start.after hops)
  have hlater : Http.Attainable .counting later := hoffice.request none request
  exact ⟨hlater, by decide +kernel, by decide +kernel, Http.Attainable.legible hlater⟩

end BookingOffice
