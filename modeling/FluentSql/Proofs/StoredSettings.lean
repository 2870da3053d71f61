import FluentSql.Connection.Stored
import FluentSql.Proofs.Documents
import Mathlib.Data.List.Forall2

/-!
# Settings that are read back

Connection settings that were written are read back as they were, whatever texts they hold and
whichever of them are missing.  The host may have been renamed meanwhile: it goes by two names.

## Main definitions

* `Connection.members` — the settings as they are written, each under its name.
* `renameKey` — members with another name for one of them.
* `Connection.documents` — the documents that the settings are read from.

## Main results

* `Connection.ofDocument?_documents` — the settings in these documents, under either name.
* `Connection.read?_write` — **settings are read back**, under either name of the host.
-/

namespace FluentSql

/-- Members with another name for those that go by one. -/
def renameKey {α : Type} (old new : String) (members : List (String × α)) : List (String × α) :=
  members.map fun m => (if m.1 = old then new else m.1, m.2)

theorem renameKey_self {α : Type} (key : String) (members : List (String × α)) :
    renameKey key key members = members := by
  refine List.map_id'' ?_ _
  rintro ⟨name, value⟩
  by_cases h : name = key
  · simp [h]
  · simp [h]

/-- Renaming members does not change what their values are read as. -/
theorem Document.MembersReadAs.renameKey {written : List (String × String)}
    {read : List (String × Document)} (h : MembersReadAs written read) (old new : String) :
    MembersReadAs (renameKey old new written) (renameKey old new read) := by
  refine List.forall₂_map_left_iff.mpr (List.forall₂_map_right_iff.mpr (h.imp ?_))
  rintro w r ⟨hkey, hd⟩
  exact ⟨by rw [hkey], hd⟩

/-- The name of a driver is read as that driver. -/
theorem Driver.ofName?_name (d : Driver) : ofName? d.name = some d := by
  cases d <;> decide

namespace Connection

open Document (ReadsAs MembersReadAs)

/-- The settings as they are written, each under its name. -/
def members (c : Connection) : List (String × String) :=
  [("driver", Json.writeText c.driver.name), ("dbname", Json.writeText c.dbname),
    ("host", writeOptional c.host),
    ("port", c.port.elim "null" fun port => naturalText port.toNat),
    ("username", writeOptional c.username), ("password", writeOptional c.password),
    ("charset", writeOptional c.charset)]

theorem write_eq (c : Connection) : c.write = Json.writeObject c.members := rfl

/-! ### What the settings are read as -/

/-- A text, or `null`, as a document. -/
def optionalDocument (s : Option String) : Document := s.elim .null fun s => .text (some s)

/-- A port, or `null`, as a document. -/
def portDocument (port : Option UInt16) : Document :=
  port.elim .null fun port => .number (some (.integer port.toNat))

/-- The documents that the settings are read as, each under its name. -/
def documents (c : Connection) : List (String × Document) :=
  [("driver", .text (some c.driver.name)), ("dbname", .text (some c.dbname)),
    ("host", optionalDocument c.host), ("port", portDocument c.port),
    ("username", optionalDocument c.username), ("password", optionalDocument c.password),
    ("charset", optionalDocument c.charset)]

theorem readsAs_writeOptional (s : Option String) :
    ReadsAs (writeOptional s) (optionalDocument s) := by
  cases s with
  | none => exact Document.readsAs_null
  | some s => exact Document.readsAs_writeText s

theorem readsAs_port (port : Option UInt16) :
    ReadsAs (port.elim "null" fun port => naturalText port.toNat) (portDocument port) := by
  cases port with
  | none => exact Document.readsAs_null
  | some port =>
    have hport : port.toNat < UInt64.size := Nat.lt_trans port.toNat_lt (by decide)
    exact Document.readsAs_naturalText hport

theorem membersReadAs (c : Connection) : MembersReadAs c.members c.documents :=
  .cons ⟨rfl, Document.readsAs_writeText _⟩ <| .cons ⟨rfl, Document.readsAs_writeText _⟩ <|
    .cons ⟨rfl, readsAs_writeOptional _⟩ <| .cons ⟨rfl, readsAs_port _⟩ <|
    .cons ⟨rfl, readsAs_writeOptional _⟩ <| .cons ⟨rfl, readsAs_writeOptional _⟩ <|
    .cons ⟨rfl, readsAs_writeOptional _⟩ .nil

/-! ### What is read of them -/

theorem optional?_optionalDocument (s : Option String) :
    optional? Document.text? (some (optionalDocument s)) = some s := by
  cases s <;> rfl

/-- The number of a port is read as that port. -/
theorem port?_toNat (port : UInt16) :
    port? (.number (some (.integer port.toNat))) = some port := by
  have hrange : 0 ≤ (port.toNat : Int) ∧ (port.toNat : Int) < UInt16.size :=
    ⟨Int.natCast_nonneg _, Int.ofNat_lt.mpr port.toNat_lt_size⟩
  rw [port?, Document.integer?, Option.bind_eq_bind, Option.bind_some, if_pos hrange,
    Int.toNat_natCast, UInt16.ofNat_toNat]

theorem optional?_portDocument (port : Option UInt16) :
    optional? port? (some (portDocument port)) = some port := by
  cases port with
  | none => rfl
  | some port =>
    rw [portDocument, Option.elim_some, optional?, Document.nullable?, port?_toNat]
    · rfl
    · rintro ⟨⟩

/-- The documents of the settings hold the settings, whichever name the host goes by. -/
theorem ofDocument?_documents (c : Connection) {name : String}
    (h : name = "host" ∨ name = "dbhost") :
    ofDocument? (.object ((renameKey "host" name c.documents).map fun m => (some m.1, m.2))) =
      some c := by
  have hfields : Document.fields? fieldNames
      (.object ((renameKey "host" name c.documents).map fun m => (some m.1, m.2))) =
        some (c.documents.map fun m => some m.2) := by
    rcases h with rfl | rfl <;>
      simp [Document.fields?, Document.field?, fieldNames, documents, renameKey]
  rw [ofDocument?, hfields]
  simp [documents, Driver.ofDocument?, Driver.ofName?_name, optional?_optionalDocument,
    optional?_portDocument, Document.text?]

/-! ### Settings -/

theorem read?_members (c : Connection) {name : String} (h : name = "host" ∨ name = "dbhost") :
    read? (Json.writeObject (renameKey "host" name c.members)) = some c := by
  rw [read?, Document.read?_writeObject (c.membersReadAs.renameKey "host" name)]
  exact ofDocument?_documents c h

/-- **Settings that were written are read back as they were**, also if the host was renamed. -/
theorem read?_write (c : Connection) :
    read? c.write = some c ∧
      read? (Json.writeObject (renameKey "host" "dbhost" c.members)) = some c := by
  have hread := read?_members c (Or.inl rfl)
  rw [renameKey_self, ← write_eq] at hread
  exact ⟨hread, read?_members c (Or.inr rfl)⟩

end Connection

end FluentSql
