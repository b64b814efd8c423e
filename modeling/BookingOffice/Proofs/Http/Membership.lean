import BookingOffice.Json.Printer
import BookingOffice.Proofs.Http.Bodies
import BookingOffice.Proofs.Schema.Accepted

/-!
Bodies that link members to an owner or unlink them, said without the way in which they are read. A
body stands for an owner and for members if it has a text for each of them (`Identifies`, `Names`).
Otherwise its two parts are faulty each on its own (`Misnames`, `ListFault`), and of several faulty
items the first one is told.

* `Membership.readUuid_eq_ok_iff`, `Membership.readUuid_eq_error_iff`: reading an identifier;
* `Membership.readMembers_eq_ok_iff`, `Membership.readMembers_eq_error_iff`: so the list is read;
* `Membership.StandsFor`: what it means that a body stands for an owner and for members;
* `Membership.Alike`: whether two bodies differ in nothing that matters;
* `Membership.Enlists`: what it means that a body is read exactly, to link members or to unlink
  them;
* `Membership.enlists`: so all bodies are.
-/

namespace BookingOffice.Http.Membership

/-- If a result is known in each of two cases, and there are no others, it tells which case it
is. -/
lemma settled {ε α : Type} {result : Except ε α} {P : α → Prop} {Q : ε → Prop}
    (hok : ∀ a, P a → result = .ok a) (herror : ∀ e, Q e → result = .error e)
    (hcases : (∃ a, P a) ∨ ∃ e, Q e) :
    (∀ a, result = .ok a ↔ P a) ∧ ∀ e, result = .error e ↔ Q e := by
  refine ⟨fun a => ⟨fun h => ?_, hok a⟩, fun e => ⟨fun h => ?_, herror e⟩⟩
  · obtain ⟨b, hb⟩ | ⟨e, he⟩ := hcases
    · rwa [← Except.ok.inj ((hok b hb).symm.trans h)]
    · cases (herror e he).symm.trans h
  · obtain ⟨a, ha⟩ | ⟨d, hd⟩ := hcases
    · cases (hok a ha).symm.trans h
    · rwa [← Except.error.inj ((herror d hd).symm.trans h)]

/-! ### Identifiers -/

/-- Whether a member of an object is a text for an identifier. -/
def Identifies (json : Option Json) (u : Uuid) : Prop :=
  ∃ s, json = some (.string s) ∧ Uuid.ofText? s = some u

/-- What is wrong with a member of an object that is no text for an identifier. -/
inductive Misnames : Option Json → Flaw → Prop
  | missing {json : Option Json} (absent : Field.IsAbsent json) : Misnames json .missing
  | misread {json : Json} (present : json ≠ .null)
    (unread : ∀ s, json = .string s → Uuid.ofText? s = none) : Misnames (some json) .notUuid

variable {json : Option Json} {u : Uuid} {message : String}

lemma Misnames.flaw {flaw : Flaw} (h : Misnames json flaw) : flaw = .missing ∨ flaw = .notUuid := by
  cases h with
  | missing => exact .inl rfl
  | misread => exact .inr rfl

lemma Misnames.isAbsent (h : Misnames json .missing) : Field.IsAbsent json := by
  obtain absent | _ := h
  exact absent

lemma Misnames.not_isAbsent (h : Misnames json .notUuid) : ¬ Field.IsAbsent json := by
  obtain _ | @⟨json, present, -⟩ := h
  rintro (hnone | hnull)
  · cases hnone
  · exact present (Option.some.inj hnull)

lemma readUuid_of_identifies (h : Identifies json u) : readUuid json = .ok u := by
  obtain ⟨s, rfl, hs⟩ := h
  simp only [readUuid, hs]

lemma readUuid_of_misnames {flaw : Flaw} (h : Misnames json flaw) :
    readUuid json = .error flaw.message := by
  cases h with
  | missing absent => obtain rfl | rfl := absent <;> rfl
  | @misread json present unread =>
    cases json with
    | null => exact absurd rfl present
    | string s => simp only [readUuid, unread s rfl]
    | _ => rfl

/-- A member stands for an identifier, or something is wrong with it. -/
lemma identifies_or_misnames (json : Option Json) :
    (∃ u, Identifies json u) ∨ ∃ flaw, Misnames json flaw := by
  by_cases habsent : Field.IsAbsent json
  · exact .inr ⟨_, .missing habsent⟩
  · obtain ⟨json, rfl⟩ := Option.ne_none_iff_exists'.1 fun h => habsent (.inl h)
    by_cases hread : ∃ s u, json = .string s ∧ Uuid.ofText? s = some u
    · obtain ⟨s, u, rfl, hs⟩ := hread
      exact .inl ⟨u, s, rfl, hs⟩
    · refine .inr ⟨_, .misread (fun h => habsent (.inr (congrArg some h))) fun s hs => ?_⟩
      exact Option.eq_none_iff_forall_ne_some.2 fun u hu => hread ⟨s, u, hs, hu⟩

lemma readUuid_settled (json : Option Json) :
    (∀ u, readUuid json = .ok u ↔ Identifies json u) ∧
      ∀ message, readUuid json = .error message ↔
        ∃ flaw, Misnames json flaw ∧ message = flaw.message := by
  refine settled (fun u => readUuid_of_identifies) ?_ ?_
  · rintro message ⟨flaw, hflaw, rfl⟩
    exact readUuid_of_misnames hflaw
  · exact (identifies_or_misnames json).imp id fun ⟨flaw, hflaw⟩ => ⟨_, flaw, hflaw, rfl⟩

/-- Reading an identifier gives what the member stands for. -/
lemma readUuid_eq_ok_iff : readUuid json = .ok u ↔ Identifies json u := (readUuid_settled json).1 u

/-- Otherwise it tells what is wrong with the member. -/
lemma readUuid_eq_error_iff :
    readUuid json = .error message ↔ ∃ flaw, Misnames json flaw ∧ message = flaw.message :=
  (readUuid_settled json).2 message

/-! ### Items -/

/-- Whether an item is an object with a text for an identifier. -/
def Names (item : Json) (u : Uuid) : Prop :=
  ∃ entries, item = .object entries ∧ Identifies (Entries.get? "uuid" entries) u

lemma identifies_get?_iff {item : Json} : Identifies (item.get? "uuid") u ↔ Names item u := by
  constructor
  · rintro ⟨s, hs, hu⟩
    cases item with
    | object entries => exact ⟨entries, rfl, s, hs, hu⟩
    | _ => cases hs
  · rintro ⟨entries, rfl, h⟩
    exact h

/-- What items are told that do not all stand for identifiers: where the first of these is, counted
from an index, and what is wrong with it. -/
inductive ItemFault (index : Nat) : List Json → String → Prop
  | first (before : List Json) {after : List Json} {item : Json} {flaw : Flaw}
    (good : ∀ x ∈ before, ∃ u, Names x u) (bad : Misnames (item.get? "uuid") flaw) :
    ItemFault index (before ++ item :: after)
      s!"item {index + before.length}: uuid {flaw.message}"

variable {index : Nat} {item : Json} {items : List Json} {members : List Uuid}

/-- A fault behind a good item is counted from the next index. -/
lemma ItemFault.cons (hitem : Names item u) (h : ItemFault (index + 1) items message) :
    ItemFault index (item :: items) message := by
  obtain ⟨before, good, bad⟩ := h
  have hplace : index + 1 + before.length = index + (item :: before).length := by
    rw [List.length_cons, Nat.add_assoc, Nat.add_comm 1]
  rw [hplace]
  refine .first (item :: before) (fun x hx => ?_) bad
  obtain rfl | hx := List.mem_cons.1 hx
  · exact ⟨u, hitem⟩
  · exact good x hx

lemma readItems_cons_of_names (h : Names item u) :
    readItems index (item :: items) = (readItems (index + 1) items).map (u :: ·) := by
  simp only [readItems, readUuid_of_identifies (identifies_get?_iff.2 h)]
  rfl

lemma readItems_cons_of_misnames {flaw : Flaw} (h : Misnames (item.get? "uuid") flaw) :
    readItems index (item :: items) = .error s!"item {index}: uuid {flaw.message}" := by
  simp only [readItems, readUuid_of_misnames h]
  rfl

lemma readItems_of_names (h : List.Forall₂ Names items members) :
    readItems index items = .ok members := by
  induction h generalizing index with
  | nil => rfl
  | cons hitem _ ih =>
    rw [readItems_cons_of_names hitem, ih]
    rfl

lemma readItems_of_itemFault (h : ItemFault index items message) :
    readItems index items = .error message := by
  obtain @⟨before, after, item, flaw, good, bad⟩ := h
  induction before generalizing index with
  | nil => exact readItems_cons_of_misnames bad
  | cons x before ih =>
    obtain ⟨u, hx⟩ := good x List.mem_cons_self
    have hrest := @ih (index + 1) fun y hy => good y (List.mem_cons_of_mem x hy)
    rw [List.cons_append, readItems_cons_of_names hx, hrest, List.length_cons, Nat.add_assoc,
      Nat.add_comm 1]
    rfl

/-- Items all stand for identifiers, or one of them is the first that does not. -/
lemma names_or_itemFault (index : Nat) (items : List Json) :
    (∃ members, List.Forall₂ Names items members) ∨ ∃ message, ItemFault index items message := by
  induction items generalizing index with
  | nil => exact .inl ⟨[], .nil⟩
  | cons item items ih =>
    obtain ⟨u, hu⟩ | ⟨flaw, hflaw⟩ := identifies_or_misnames (item.get? "uuid")
    · have hitem := identifies_get?_iff.1 hu
      exact (ih (index + 1)).imp (fun ⟨members, hrest⟩ => ⟨u :: members, .cons hitem hrest⟩)
        fun ⟨message, hrest⟩ => ⟨message, hrest.cons hitem⟩
    · exact .inr ⟨_, .first [] (fun _ h => absurd h List.not_mem_nil) hflaw⟩

/-- What items have under other names does not matter. -/
lemma readItems_congr {others : List Json}
    (h : List.Forall₂ (fun x y : Json => x.get? "uuid" = y.get? "uuid") items others) :
    readItems index items = readItems index others := by
  induction h generalizing index with
  | nil => rfl
  | cons hitem _ ih => rw [readItems, readItems, hitem, ih]

/-! ### The list of members -/

/-- What is told of a list of members that does not stand for identifiers. -/
inductive ListFault : Option Json → String → Prop
  | missing : ListFault none "is required"
  | notArray {json : Json} (h : ∀ items, json ≠ .array items) :
    ListFault (some json) "must be an array"
  | item {items : List Json} {message : String} (h : ItemFault 0 items message) :
    ListFault (some (.array items)) message

/-- Whether a list of members stands for identifiers. -/
def ListsAll (json : Option Json) (members : List Uuid) : Prop :=
  ∃ items, json = some (.array items) ∧ List.Forall₂ Names items members

lemma readMembers_of_listsAll (h : ListsAll json members) : readMembers json = .ok members := by
  obtain ⟨items, rfl, hitems⟩ := h
  exact readItems_of_names hitems

lemma readMembers_of_listFault (h : ListFault json message) :
    readMembers json = .error message := by
  cases h with
  | missing => rfl
  | @notArray json h =>
    cases json with
    | array items => exact absurd rfl (h items)
    | _ => rfl
  | item h => exact readItems_of_itemFault h

lemma listsAll_or_listFault (json : Option Json) :
    (∃ members, ListsAll json members) ∨ ∃ message, ListFault json message := by
  cases json with
  | none => exact .inr ⟨_, .missing⟩
  | some json =>
    by_cases harray : ∃ items, json = .array items
    · obtain ⟨items, rfl⟩ := harray
      exact (names_or_itemFault 0 items).imp (fun ⟨members, h⟩ => ⟨members, items, rfl, h⟩)
        fun ⟨message, h⟩ => ⟨message, .item h⟩
    · exact .inr ⟨_, .notArray fun items h => harray ⟨items, h⟩⟩

lemma readMembers_settled (json : Option Json) :
    (∀ members, readMembers json = .ok members ↔ ListsAll json members) ∧
      ∀ message, readMembers json = .error message ↔ ListFault json message :=
  settled (fun _ => readMembers_of_listsAll) (fun _ => readMembers_of_listFault)
    (listsAll_or_listFault json)

/-- Reading a list of members gives what it stands for. -/
lemma readMembers_eq_ok_iff : readMembers json = .ok members ↔ ListsAll json members :=
  (readMembers_settled json).1 members

/-- Otherwise it tells what is wrong with the list. -/
lemma readMembers_eq_error_iff : readMembers json = .error message ↔ ListFault json message :=
  (readMembers_settled json).2 message

/-! ### Bodies -/

variable {a : Association} {body : Json} {entries others : List (String × Json)} {owner : Uuid}
  {errors : FieldErrors}

/-- Whether a body is an object with a text for an owner, and with a list for the members under the
name of the association. -/
def StandsFor (a : Association) (body : Json) (owner : Uuid) (members : List Uuid) : Prop :=
  ∃ entries items, body = .object entries ∧ Identifies (Entries.get? "uuid" entries) owner ∧
    Entries.get? a.name entries = some (.array items) ∧ List.Forall₂ Names items members

lemma standsFor_object_iff : StandsFor a (.object entries) owner members ↔
    Identifies (Entries.get? "uuid" entries) owner ∧
      ListsAll (Entries.get? a.name entries) members := by
  constructor
  · rintro ⟨_, items, ⟨⟩, howner, hlist, hitems⟩
    exact ⟨howner, items, hlist, hitems⟩
  · rintro ⟨howner, items, hlist, hitems⟩
    exact ⟨entries, items, rfl, howner, hlist, hitems⟩

lemma read_object_eq_ok_iff : read a (.object entries) = .ok (owner, members) ↔
    readUuid (Entries.get? "uuid" entries) = .ok owner ∧
      readMembers (Entries.get? a.name entries) = .ok members := by
  simp only [read, Json.members?]
  cases readUuid (Entries.get? "uuid" entries) <;>
    cases readMembers (Entries.get? a.name entries) <;> simp

/-- A body is read as an owner and members if it stands for them. -/
lemma read_eq_ok_iff : read a body = .ok (owner, members) ↔ StandsFor a body owner members := by
  cases body with
  | object entries =>
    rw [standsFor_object_iff, read_object_eq_ok_iff, readUuid_eq_ok_iff, readMembers_eq_ok_iff]
  | _ => exact iff_of_false nofun nofun

lemma errorsOf_get?_eq_some_iff {α : Type} {field key : String} {part : Except String α} :
    (errorsOf field part).get? key = some message ↔ key = field ∧ part = .error message := by
  cases part with
  | ok value => simp [errorsOf]
  | error e => simp [errorsOf, FieldErrors.get?_single]

/-- The errors of a body are those of its two parts. -/
lemma read_object_eq_error (h : read a (.object entries) = .error errors) :
    errors = (errorsOf "uuid" (readUuid (Entries.get? "uuid" entries))).extend
      (errorsOf a.name (readMembers (Entries.get? a.name entries))) := by
  simp only [read, Json.members?] at h
  split at h
  · cases h
  · exact (Except.error.inj h).symm

/-- If the two parts have different names, each is told what is wrong with it. -/
lemma get?_of_read_eq_error (hname : a.name ≠ "uuid")
    (h : read a (.object entries) = .error errors) (key message : String) :
    errors.get? key = some message ↔
      (key = "uuid" ∧ ∃ flaw, Misnames (Entries.get? "uuid" entries) flaw ∧
        message = flaw.message) ∨
      (key = a.name ∧ ListFault (Entries.get? a.name entries) message) := by
  rw [read_object_eq_error h, FieldErrors.get?_extend, Option.or_eq_some_iff,
    errorsOf_get?_eq_some_iff, errorsOf_get?_eq_some_iff, readUuid_eq_error_iff,
    readMembers_eq_error_iff]
  refine or_congr Iff.rfl (and_iff_right_of_imp ?_)
  rintro ⟨rfl, -⟩
  refine Option.eq_none_iff_forall_ne_some.2 fun other hother => ?_
  exact hname (errorsOf_get?_eq_some_iff.1 hother).1

/-- A part without an error is read. -/
lemma exists_ok_of_errorsOf {α : Type} {field : String} {part : Except String α}
    (h : (errorsOf field part).get? field = none) : ∃ value, part = .ok value := by
  cases part with
  | ok value => exact ⟨value, rfl⟩
  | error message => rw [errorsOf_get?_eq_some_iff.2 ⟨rfl, rfl⟩] at h; cases h

/-- A body that is turned down is told at least one error. -/
lemma isEmpty_of_read_eq_error (h : read a body = .error errors) : errors.isEmpty = false := by
  cases body with
  | object entries =>
    refine Bool.eq_false_iff.2 fun hempty => ?_
    have hnone := Dictionary.isEmpty_iff.1 hempty
    simp only [read_object_eq_error h, FieldErrors.get?_extend, Option.or_eq_none_iff] at hnone
    obtain ⟨owner, howner⟩ := exists_ok_of_errorsOf (hnone "uuid").1
    obtain ⟨members, hmembers⟩ := exists_ok_of_errorsOf (hnone a.name).2
    cases (read_object_eq_ok_iff.2 ⟨howner, hmembers⟩).symm.trans h
  | _ => obtain rfl := Except.error.inj h; rfl

/-- Whether two lists of members are the same but for what their items have under other names than
`uuid`. -/
inductive AlikeLists : Option Json → Option Json → Prop
  | same (json : Option Json) : AlikeLists json json
  | items {items others : List Json}
    (h : List.Forall₂ (fun x y : Json => x.get? "uuid" = y.get? "uuid") items others) :
    AlikeLists (some (.array items)) (some (.array others))

/-- Whether two bodies are the same but for what they and their items have under other names. -/
inductive Alike (a : Association) : Json → Json → Prop
  | objects {entries others : List (String × Json)}
    (owner : Entries.get? "uuid" entries = Entries.get? "uuid" others)
    (members : AlikeLists (Entries.get? a.name entries) (Entries.get? a.name others)) :
    Alike a (.object entries) (.object others)

lemma AlikeLists.readMembers_eq {json other : Option Json} (h : AlikeLists json other) :
    readMembers json = readMembers other := by
  cases h with
  | same => rfl
  | items h => exact readItems_congr h

lemma Alike.read_eq {other : Json} (h : Alike a body other) : read a body = read a other := by
  obtain ⟨howner, hmembers⟩ := h
  simp only [read, Json.members?, howner, hmembers.readMembers_eq]

/-! ### Requests -/

/-- What it means that a request is answered as its body is read: with the errors, and nothing is
done, or by an operation on the owner and the members. -/
structure Follows (env : Surroundings) (token : Option String) (request : Request) (office : Office)
    (result : Except FieldErrors (Uuid × List Uuid)) (op : Uuid → List Uuid → Operation) :
    Prop where
  refused : ∀ errors, result = .error errors →
    (respond env token request office).1.Tells errors ∧
      (respond env token request office).2 = office
  carried : ∀ owner members, result = .ok (owner, members) →
    respond env token request office = carryOut env (op owner members) office

variable {env : Surroundings} {office : Office} {token : Option String} {request : Request}
  {s : Schema}

lemma follows_of_perform {route : Route} {action : Action} {op : Uuid → List Uuid → Operation}
    (h : request.Sends token route "POST" body) (haction : route.action? "POST" = some action)
    (hperform : action.perform env request =
      .after (.ofExcept request.jsonBody) fun body =>
      .after (.ofExcept ((read a body).mapError .ofFieldErrors)) fun p =>
      .reply ((op p.1 p.2).perform env) (Reply.ofAnswer (op p.1 p.2))) :
    Follows env token request office (read a body) op := by
  have hrespond : respond env token request office = _ :=
    respond_of_action h.admitted h.led (by rw [h.method]; decide) (h.method ▸ haction)
  simp only [hperform, h.body, Attempt.ofExcept_ok, Handler.after_pure] at hrespond
  refine ⟨fun errors herrors => ?_, fun owner members hread => ?_⟩
  · rw [hrespond, herrors]
    exact ⟨Answer.tells_ofProblem (isEmpty_of_read_eq_error herrors), rfl⟩
  · rw [hrespond, hread]
    rfl

/-! ### Exact reading -/

/-- What it means that a body is read exactly, to link members of an association or to unlink
them. -/
structure Enlists (a : Association) (body : Json) : Prop where
  /-- The body is read as an owner and members if it stands for them. -/
  accepted : ∀ owner members, read a body = .ok (owner, members) ↔ StandsFor a body owner members
  /-- What is no object has this one error. -/
  notObject : (∀ entries, body ≠ .object entries) →
    read a body = .error (.single "body" "must be a JSON object")
  /-- Each of the two parts of an object is told what is wrong with it, whatever the other part is.
  There are no other errors. -/
  refused : ∀ entries errors, body = .object entries → read a body = .error errors →
    ∀ key message, errors.get? key = some message ↔
      (key = "uuid" ∧ ∃ flaw, Misnames (Entries.get? "uuid" entries) flaw ∧
        message = flaw.message) ∨
      (key = a.name ∧ ListFault (Entries.get? a.name entries) message)
  /-- What the body and its items have under other names does not matter. -/
  frame : ∀ other, Alike a body other → read a other = read a body
  /-- Members are linked as the body is read. -/
  linking : ∀ env token request office s, request.Sends token (.linking s a) "POST" body →
    Follows env token request office (read a body) (.addMembers s a)
  /-- Members are unlinked as the body is read, and so by the very same bodies. -/
  unlinking : ∀ env token request office s, request.Sends token (.unlinking s a) "POST" body →
    Follows env token request office (read a body) (.removeMembers s a)

/-- Every body is read exactly, for an association whose name is not that of the owner. -/
theorem enlists (hname : a.name ≠ "uuid") (body : Json) : Enlists a body where
  accepted _ _ := read_eq_ok_iff
  notObject hbody := by
    cases body with
    | object entries => exact absurd rfl (hbody entries)
    | _ => rfl
  refused entries errors hbody herrors := by
    subst hbody
    exact get?_of_read_eq_error hname herrors
  frame _ h := h.read_eq.symm
  linking _ _ _ _ _ h := follows_of_perform h rfl rfl
  unlinking _ _ _ _ _ h := follows_of_perform h rfl rfl

/-- A driver is linked with two vehicles, one of them twice. A body with a number for the owner and
with two bad vehicles is sent to both routes, and is told one error for the owner and one for the
first of these vehicles. -/
theorem enlists_two_vehicles :
    let name (n : Nat) : Json := .string (Uuid.ofNat n).toText
    let vehicle (n : Nat) : Json := .object [("colour", .null), ("uuid", name n)]
    let body (owner : Json) (items : List Json) : Json :=
      .object [("since", .bool true), ("uuid", owner), ("vehicles", .array items)]
    let good := body (name 0) [vehicle 1, vehicle 2, vehicle 1]
    let bad := body (.nat 5) [vehicle 1, .object [], .nat 7]
    let asking (segment : String) : Request :=
      { method := "POST"
        target := "/api/v1/external/driver/" ++ segment
        headers := [⟨"content-type", Text.Utf8.encode "application/json"⟩]
        body := Text.Utf8.encode bad.toText }
    let a := Catalogue.driverVehicles
    a.name ≠ "uuid" ∧
      (Enlists a good ∧ read a good = .ok (.ofNat 0, [.ofNat 1, .ofNat 2, .ofNat 1])) ∧
      ∃ sent errors, Enlists a sent ∧
        (asking "vehicle_add").Sends none (.linking Catalogue.driver a) "POST" sent ∧
        (asking "vehicle_del").Sends none (.unlinking Catalogue.driver a) "POST" sent ∧
        read a sent = .error errors ∧ errors.entries =
          [("uuid", "must be a valid UUID"), ("vehicles", "item 1: uuid is required")] := by
  intro name vehicle body good bad asking a
  have hname : a.name ≠ "uuid" := by decide
  have htexts : ∀ n ∈ [0, 1, 2], Uuid.ofText? (Uuid.ofNat n).toText = some (.ofNat n) := by
    decide +kernel
  have hvehicle (n : Nat) (hn : n ∈ [0, 1, 2]) : Names (vehicle n) (.ofNat n) :=
    ⟨_, rfl, _, rfl, htexts n hn⟩
  have hgood : StandsFor a good (.ofNat 0) [.ofNat 1, .ofNat 2, .ofNat 1] :=
    ⟨_, _, rfl, ⟨_, rfl, htexts 0 (by decide)⟩, rfl, .cons (hvehicle 1 (by decide))
      (.cons (hvehicle 2 (by decide)) (.cons (hvehicle 1 (by decide)) .nil))⟩
  have hadd : Route.find? (asking "vehicle_add").path = some (.linking Catalogue.driver a) := by
    decide +kernel
  have hdel : Route.find? (asking "vehicle_del").path = some (.unlinking Catalogue.driver a) := by
    decide +kernel
  have hread : (asking "vehicle_add").jsonBody.toOption.map (read a) = some (.error (.ofList
      [("uuid", "must be a valid UUID"), ("vehicles", "item 1: uuid is required")])) := by
    decide +kernel
  cases hsent : (asking "vehicle_add").jsonBody with
  | error => rw [hsent] at hread; cases hread
  | ok sent =>
    rw [hsent] at hread
    exact ⟨hname, ⟨enlists hname good, ((enlists hname good).accepted _ _).2 hgood⟩, sent, _,
      enlists hname sent, ⟨by simp, hadd, rfl, hsent⟩, ⟨by simp, hdel, rfl, hsent⟩,
      Option.some.inj hread, by decide⟩

end BookingOffice.Http.Membership
