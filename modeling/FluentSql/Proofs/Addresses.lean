import FluentSql.Connection
import FluentSql.Proofs.Aliases

/-!
# Addresses of servers

The settings of a server are written into one line: the user and the password in front of the host,
the port behind it, then the database and the character set.  Each part is told from the next one by
a character or a word, and nothing is escaped, so a part that holds such a character itself may be
taken apart where the line is read.  A reader that takes the line apart at these characters is the
other side of what is written: it gives back the settings that do not hold them, and something else
for all others.

## Main definitions

* `Text.cutFirst` — what stands before and after the first occurrence of a word.
* `Login`, `Server`, `Database`, `Target` — what the settings of a server express.
* `Connection.target`, `Connection.Agrees` — what they are for some settings, and settings for
  which they are the same.
* `Target.address` — the line that is made of it.
* `Target.IsPlain` — no part holds a character that is read as its end.
* `readAddress` — how the line is read.

## Main results

* `Connection.url_eq` — the settings of a server give the address of their target.
* `readAddress_eq_some_iff` — **an address is read as the one plain target that has it.**
* `exists_readAddress_address` — there always is one.
* `Connection.url_eq_url_iff` — **plain settings are told apart by their addresses**, and no others
  can be read back.
* `Connection.password_leads_elsewhere` — a password that leads to another server.
-/

namespace FluentSql

/-! ### Cutting at a word -/

namespace Text

variable {c : Char} {word cs before after : List Char}

/-- What stands before and after the first occurrence of a word. -/
def cutFirst (word : List Char) : List Char → Option (List Char × List Char)
  | [] => none
  | c :: cs =>
    if word <+: c :: cs then some ([], (c :: cs).drop word.length)
    else (cutFirst word cs).map fun (before, after) => (c :: before, after)

/-- A word does not begin in front of itself and end within itself, if its first character is not
in the rest of it. -/
theorem not_isPrefix_append {front : List Char} (hc : c ∉ word) (hne : front ≠ [])
    (h : ¬c :: word <+: front) (rest : List Char) :
    ¬c :: word <+: front ++ (c :: word ++ rest) := by
  intro hprefix
  rcases List.prefix_or_prefix_of_prefix hprefix (List.prefix_append front _) with hword | hfront
  · exact h hword
  · -- what is missing of the word would begin with its first character
    obtain ⟨missing, hmissing⟩ := hfront
    obtain ⟨d, front, rfl⟩ := List.exists_cons_of_ne_nil hne
    rw [List.cons_append, List.cons_eq_cons] at hmissing
    obtain ⟨rfl, rfl⟩ := hmissing
    rw [← List.cons_append, List.prefix_append_right_inj] at hprefix
    cases missing with
    | nil =>
      rw [List.append_nil] at h
      exact h (List.prefix_refl _)
    | cons e missing =>
      obtain ⟨rfl, -⟩ := List.cons_prefix_cons.mp hprefix
      exact hc (List.mem_append_right front List.mem_cons_self)

/-- The word that no part of it stands in front of is the first one. -/
theorem cutFirst_append (hc : c ∉ word) (h : ¬c :: word <:+: before) (after : List Char) :
    cutFirst (c :: word) (before ++ (c :: word ++ after)) = some (before, after) := by
  induction before with
  | nil =>
    rw [List.nil_append, List.cons_append, cutFirst, ← List.cons_append,
      if_pos (List.prefix_append _ _), List.drop_left]
  | cons d before ih =>
    rw [List.infix_cons_iff, not_or] at h
    have hlater := not_isPrefix_append hc (List.cons_ne_nil d before) h.1 after
    rw [List.cons_append] at hlater ⊢
    rw [cutFirst, if_neg hlater, ih h.2]
    rfl

/-- A text is cut at its first occurrence of the word. -/
theorem eq_of_cutFirst (h : cutFirst word cs = some (before, after)) (hne : word ≠ []) :
    cs = before ++ (word ++ after) ∧ ¬word <:+: before := by
  induction cs generalizing before with
  | nil => cases h
  | cons c cs ih =>
    rw [cutFirst] at h
    split at h
    · rename_i hprefix
      cases h
      refine ⟨?_, fun hinfix => hne (List.infix_nil.mp hinfix)⟩
      exact (List.prefix_iff_eq_append.mp hprefix).symm
    · rename_i hprefix
      obtain ⟨⟨before', after'⟩, hcut, heq⟩ := Option.map_eq_some_iff.mp h
      cases heq
      obtain ⟨rfl, hbefore⟩ := ih hcut
      refine ⟨rfl, fun hinfix => ?_⟩
      rcases List.infix_cons_iff.mp hinfix with hfront | hlater
      · exact hprefix (hfront.trans (List.prefix_append (c :: before') _))
      · exact hbefore hlater

/-- There is nothing to cut at exactly if the word does not stand in the text. -/
theorem cutFirst_eq_none_iff (hne : word ≠ []) : cutFirst word cs = none ↔ ¬word <:+: cs := by
  induction cs with
  | nil =>
    rw [List.infix_nil]
    exact iff_of_true rfl hne
  | cons c cs ih =>
    rw [cutFirst, List.infix_cons_iff, not_or, ← ih]
    split
    · rename_i hprefix
      exact iff_of_false (fun h => by cases h) fun h => h.1 hprefix
    · rename_i hprefix
      rw [Option.map_eq_none_iff, and_iff_right hprefix]

/-! ### Cutting at a character -/

theorem cutFirst_singleton_iff :
    cutFirst [c] cs = some (before, after) ↔ cs = before ++ c :: after ∧ c ∉ before := by
  constructor
  · intro h
    obtain ⟨hcs, hbefore⟩ := eq_of_cutFirst h (List.cons_ne_nil c [])
    rw [List.singleton_infix_iff] at hbefore
    exact ⟨hcs, hbefore⟩
  · rintro ⟨rfl, hbefore⟩
    rw [← List.singleton_infix_iff] at hbefore
    exact cutFirst_append List.not_mem_nil hbefore after

theorem cutFirst_singleton_eq_none_iff : cutFirst [c] cs = none ↔ c ∉ cs := by
  rw [cutFirst_eq_none_iff (List.cons_ne_nil c []), List.singleton_infix_iff]

theorem cutLast_singleton_eq_none_iff (hc : c.toNat < 65) : cutLast [c] cs = none ↔ c ∉ cs := by
  rw [cutLast_eq_none_iff (List.cons_ne_nil c []), ← Bool.not_eq_true,
    holdsWord_singleton_iff hc]

theorem cutLast_singleton_iff (hc : c.toNat < 65) :
    cutLast [c] cs = some (before, after) ↔ cs = before ++ c :: after ∧ c ∉ after := by
  constructor
  · intro h
    obtain ⟨found, rfl, hfound, hlast⟩ := eq_of_cutLast h
    rw [fold, List.map_eq_cons_iff] at hfound
    obtain ⟨d, rest, rfl, hd, hrest⟩ := hfound
    obtain rfl : d = c := eq_of_toLower hc hd
    obtain rfl : rest = [] := List.map_eq_nil_iff.mp hrest
    exact ⟨rfl, (cutLast_singleton_eq_none_iff hc).mp hlast⟩
  · rintro ⟨rfl, hafter⟩
    have hcut : cutLast [c] (c :: after) = some ([], after) := by
      have hstart : startsWithWord [c] (c :: after) = true := by
        rw [startsWithWord_iff, fold, List.map_cons, toLower_of_lt hc]
        exact List.prefix_append [c] _
      rw [cutLast, (cutLast_singleton_eq_none_iff hc).mpr hafter]
      exact if_pos hstart
    have happend := cutLast_append hcut before
    rwa [List.append_nil] at happend

end Text

/-! ### Targets -/

/-- Who opens a connection. -/
structure Login where
  user : String
  password : Option String
  deriving DecidableEq, Repr

/-- Where a connection is opened. -/
structure Server where
  host : String
  port : Option UInt16
  deriving DecidableEq, Repr

/-- What a connection is opened for. -/
structure Database where
  name : String
  charset : Option String
  deriving DecidableEq, Repr

/-- What the settings of a server express. -/
@[ext]
structure Target where
  /-- The user, if there is one. -/
  login : Option Login
  server : Server
  database : Database
  deriving DecidableEq, Repr

/-- What the settings of a server express: the database is trimmed, a host that is missing is the
local one, and an empty user, password or character set is none.  A password without a user is not
used. -/
def Connection.target (c : Connection) : Target where
  login := (given c.username).map fun user => ⟨user, given c.password⟩
  server := ⟨c.host.getD "localhost", c.port⟩
  database := ⟨trimmed c.dbname, given c.charset⟩

/-- Two settings express the same, the password being one only where there is a user. -/
structure Connection.Agrees (c c' : Connection) : Prop where
  dbname : trimmed c.dbname = trimmed c'.dbname
  host : c.host.getD "localhost" = c'.host.getD "localhost"
  port : c.port = c'.port
  charset : given c.charset = given c'.charset
  username : given c.username = given c'.username
  password : (given c.username).isSome → given c.password = given c'.password

/-- Two settings express the same exactly if their targets are the same. -/
theorem Connection.agrees_iff {c c' : Connection} : c.Agrees c' ↔ c.target = c'.target := by
  have hlogin : c.target.login = c'.target.login ↔
      given c.username = given c'.username ∧
      ((given c.username).isSome → given c.password = given c'.password) := by
    rw [target, target]
    cases given c.username <;> cases given c'.username <;> simp
  constructor
  · intro h
    have hserver : c.target.server = c'.target.server := by rw [target, target, h.host, h.port]
    have hdatabase : c.target.database = c'.target.database := by
      rw [target, target, h.dbname, h.charset]
    exact Target.ext (hlogin.mpr ⟨h.username, h.password⟩) hserver hdatabase
  · intro h
    obtain ⟨husername, hpassword⟩ := hlogin.mp (congrArg Target.login h)
    obtain ⟨hhost, hport⟩ := Server.mk.inj (congrArg Target.server h)
    obtain ⟨hdbname, hcharset⟩ := Database.mk.inj (congrArg Target.database h)
    exact ⟨hdbname, hhost, hport, hcharset, husername, hpassword⟩

instance (c c' : Connection) : Decidable (c.Agrees c') :=
  decidable_of_iff _ Connection.agrees_iff.symm

/-- The user and the password, with a colon between them. -/
def Login.text (l : Login) : List Char :=
  l.user.toList ++ l.password.elim [] fun password => ':' :: password.toList

/-- A port in decimal. -/
def portText (port : UInt16) : List Char := Nat.toDigits 10 port.toNat

/-- The host and the port, with a colon between them. -/
def Server.text (s : Server) : List Char :=
  s.host.toList ++ s.port.elim [] fun port => ':' :: portText port

/-- The word between the database and the character set. -/
def charsetWord : List Char := "?charset=".toList

/-- The database and the character set. -/
def Database.text (d : Database) : List Char :=
  d.name.toList ++ d.charset.elim [] fun charset => charsetWord ++ charset.toList

namespace Target

/-- What stands in front of the database: the server, behind the user if there is one. -/
def authority (t : Target) : List Char :=
  t.login.elim [] (fun l => l.text ++ ['@']) ++ t.server.text

/-- The scheme of an address. -/
def scheme : List Char := "mysql://".toList

/-- The address of a target. -/
def address (t : Target) : String :=
  String.ofList (scheme ++ (t.authority ++ '/' :: t.database.text))

end Target

namespace Connection

theorem toList_credentials (c : Connection) :
    c.credentials.toList = c.target.login.elim [] fun l => l.text ++ ['@'] := by
  rw [credentials, target]
  cases given c.username with
  | none => rfl
  | some username => cases given c.password <;> simp [Login.text]

theorem toList_serverUrl (c : Connection) :
    (c.serverUrl (trimmed c.dbname)).toList = c.target.address.toList := by
  have hport : (c.port.elim "" fun port => ":" ++ naturalText port.toNat).toList =
      c.port.elim [] fun port => ':' :: portText port := by
    cases c.port <;> simp [naturalText, portText]
  have hcharset : ((given c.charset).elim "" fun charset => "?charset=" ++ charset).toList =
      (given c.charset).elim [] fun charset => charsetWord ++ charset.toList := by
    cases given c.charset with
    | none => rfl
    | some charset => exact String.toList_append
  have haddress : c.target.address.toList =
      Target.scheme ++ (c.credentials.toList ++ c.target.server.text ++
        '/' :: c.target.database.text) := by
    rw [toList_credentials]
    exact String.toList_ofList
  have hscheme : "mysql://".toList = Target.scheme := rfl
  have hslash : "/".toList = ['/'] := rfl
  rw [haddress, serverUrl]
  simp only [String.toList_append, hport, hcharset, hscheme, hslash, target, Server.text,
    Database.text, List.append_assoc, List.cons_append, List.nil_append]

/-- The address of a server is that of its target. -/
theorem url_eq {c : Connection} (hc : c.driver = .mysql) (hdb : isBlankText c.dbname = false) :
    c.url = .ok c.target.address := by
  rw [url, hc, ← String.toList_inj.mp c.toList_serverUrl, hdb]
  rfl

end Connection

/-! ### Plain targets -/

/-- The user does not hold the colon that ends it. -/
def Login.IsPlain (l : Login) : Prop := ':' ∉ l.user.toList

/-- A host without a port does not end as one with a port does. -/
def Server.IsPlain (s : Server) : Prop :=
  s.port = none → ∀ front port, s.host.toList ≠ front ++ ':' :: portText port

/-- The name of the database does not hold the word that announces the character set. -/
def Database.IsPlain (d : Database) : Prop := ¬charsetWord <:+: d.name.toList

/-- No part of a target holds what is read as its end. -/
structure Target.IsPlain (t : Target) : Prop where
  /-- The first slash is the one in front of the database. -/
  slash : '/' ∉ t.authority
  /-- The last at sign is the one in front of the server. -/
  atSign : '@' ∉ t.server.text
  login : ∀ l ∈ t.login, l.IsPlain
  server : t.server.IsPlain
  database : t.database.IsPlain

/-! ### Reading the parts -/

/-- The first colon ends the user. -/
def readLogin (cs : List Char) : Login :=
  match Text.cutFirst [':'] cs with
  | some (user, password) => ⟨String.ofList user, some (String.ofList password)⟩
  | none => ⟨String.ofList cs, none⟩

/-- What is read as a user and a password is what was written, if the user holds no colon. -/
theorem readLogin_text {l : Login} (h : l.IsPlain) : readLogin l.text = l := by
  obtain ⟨user, password⟩ := l
  rw [readLogin, Login.text]
  cases password with
  | none =>
    have hcut : Text.cutFirst [':'] user.toList = none := Text.cutFirst_singleton_eq_none_iff.mpr h
    simp [hcut]
  | some password =>
    have hcut : Text.cutFirst [':'] (user.toList ++ ':' :: password.toList) =
        some (user.toList, password.toList) := Text.cutFirst_singleton_iff.mpr ⟨rfl, h⟩
    simp [hcut]

theorem text_readLogin (cs : List Char) : (readLogin cs).text = cs ∧ (readLogin cs).IsPlain := by
  rw [readLogin]
  split
  · rename_i user password hcut
    obtain ⟨rfl, huser⟩ := Text.cutFirst_singleton_iff.mp hcut
    exact ⟨by simp [Login.text], by simpa [Login.IsPlain] using huser⟩
  · rename_i hcut
    have hcolon := Text.cutFirst_singleton_eq_none_iff.mp hcut
    exact ⟨by simp [Login.text], by simpa [Login.IsPlain] using hcolon⟩

/-- The port that digits name. -/
def readPort? (cs : List Char) : Option UInt16 :=
  let port := UInt16.ofNat (digitsValue cs)
  if portText port = cs then some port else none

theorem readPort?_eq_some_iff {cs : List Char} {port : UInt16} :
    readPort? cs = some port ↔ portText port = cs := by
  have hread : UInt16.ofNat (digitsValue (portText port)) = port := by
    have hdigits : digitsValue (portText port) = port.toNat :=
      Nat.ofDigitChars_toDigits (by decide) (by decide)
    rw [hdigits, UInt16.ofNat_toNat]
  rw [readPort?, Option.ite_none_right_eq_some, Option.some_inj]
  constructor
  · rintro ⟨htext, rfl⟩
    exact htext
  · rintro rfl
    rw [hread]
    exact ⟨rfl, rfl⟩

/-- The last colon ends the host, if a port stands behind it. -/
def readServer (cs : List Char) : Server :=
  match Text.cutLast [':'] cs with
  | some (host, digits) =>
    match readPort? digits with
    | some port => ⟨String.ofList host, some port⟩
    | none => ⟨String.ofList cs, none⟩
  | none => ⟨String.ofList cs, none⟩

theorem colon_notMem_portText (port : UInt16) : ':' ∉ portText port := fun h =>
  absurd (Nat.isDigit_of_mem_toDigits (by decide) (by decide) h) (by decide)

/-- A port behind a colon is found there. -/
theorem cutLast_portText (front : List Char) (port : UInt16) :
    Text.cutLast [':'] (front ++ ':' :: portText port) = some (front, portText port) :=
  (Text.cutLast_singleton_iff (by decide)).mpr ⟨rfl, colon_notMem_portText port⟩

/-- What is read as a host and a port is what was written, if the host does not end as one with a
port does. -/
theorem readServer_text {s : Server} (h : s.IsPlain) : readServer s.text = s := by
  obtain ⟨host, port⟩ := s
  rw [readServer, Server.text]
  cases port with
  | none =>
    simp only [Option.elim_none, List.append_nil]
    split
    · rename_i front digits hcut
      obtain ⟨hhost, -⟩ := (Text.cutLast_singleton_iff (by decide)).mp hcut
      split
      · rename_i port hport
        rw [← readPort?_eq_some_iff.mp hport] at hhost
        exact absurd hhost (h rfl front port)
      · rw [String.ofList_toList]
    · rw [String.ofList_toList]
  | some port =>
    have hport : readPort? (portText port) = some port := readPort?_eq_some_iff.mpr rfl
    simp [cutLast_portText, hport]

theorem text_readServer (cs : List Char) :
    (readServer cs).text = cs ∧ (readServer cs).IsPlain := by
  rw [readServer]
  split
  · rename_i host digits hcut
    obtain ⟨rfl, -⟩ := (Text.cutLast_singleton_iff (by decide)).mp hcut
    split
    · rename_i port hport
      rw [← readPort?_eq_some_iff.mp hport]
      exact ⟨by simp [Server.text], fun hnone => by cases hnone⟩
    · rename_i hport
      refine ⟨by simp [Server.text], fun _ front port hfront => ?_⟩
      -- a port would have been found there
      rw [String.toList_ofList] at hfront
      rw [hfront, cutLast_portText] at hcut
      cases hcut
      rw [readPort?_eq_some_iff.mpr rfl] at hport
      cases hport
  · rename_i hcut
    refine ⟨by simp [Server.text], fun _ front port hfront => ?_⟩
    rw [String.toList_ofList] at hfront
    rw [hfront, cutLast_portText] at hcut
    cases hcut

/-- The database ends where the character set is announced. -/
def readDatabase (cs : List Char) : Database :=
  match Text.cutFirst charsetWord cs with
  | some (name, charset) => ⟨String.ofList name, some (String.ofList charset)⟩
  | none => ⟨String.ofList cs, none⟩

/-- What is read as a database and a character set is what was written, if the name does not hold
the word between them. -/
theorem readDatabase_text {d : Database} (h : d.IsPlain) : readDatabase d.text = d := by
  obtain ⟨name, charset⟩ := d
  rw [readDatabase, Database.text]
  cases charset with
  | none =>
    have hcut : Text.cutFirst charsetWord name.toList = none :=
      (Text.cutFirst_eq_none_iff (by decide)).mpr h
    simp [hcut]
  | some charset =>
    have hcut : Text.cutFirst charsetWord (name.toList ++ (charsetWord ++ charset.toList)) =
        some (name.toList, charset.toList) := Text.cutFirst_append (by decide) h _
    simp [hcut]

theorem text_readDatabase (cs : List Char) :
    (readDatabase cs).text = cs ∧ (readDatabase cs).IsPlain := by
  rw [readDatabase]
  split
  · rename_i name charset hcut
    obtain ⟨rfl, hname⟩ := Text.eq_of_cutFirst hcut (by decide)
    exact ⟨by simp [Database.text], by simpa [Database.IsPlain] using hname⟩
  · rename_i hcut
    have hword := (Text.cutFirst_eq_none_iff (by decide)).mp hcut
    exact ⟨by simp [Database.text], by simpa [Database.IsPlain] using hword⟩

/-! ### Reading an address -/

/-- The last at sign ends the user and the password, and the first slash the server. -/
def readTarget (authority database : List Char) : Target :=
  match Text.cutLast ['@'] authority with
  | some (login, server) => ⟨some (readLogin login), readServer server, readDatabase database⟩
  | none => ⟨none, readServer authority, readDatabase database⟩

theorem readTarget_authority {t : Target} (h : t.IsPlain) :
    readTarget t.authority t.database.text = t := by
  obtain ⟨login, server, database⟩ := t
  have hserver := readServer_text h.server
  have hdatabase := readDatabase_text h.database
  rw [readTarget, Target.authority]
  cases login with
  | none =>
    have hcut : Text.cutLast ['@'] server.text = none :=
      (Text.cutLast_singleton_eq_none_iff (by decide)).mpr h.atSign
    simp [hcut, hserver, hdatabase]
  | some login =>
    have hcut : Text.cutLast ['@'] (login.text ++ '@' :: server.text) =
        some (login.text, server.text) :=
      (Text.cutLast_singleton_iff (by decide)).mpr ⟨rfl, h.atSign⟩
    simp [hcut, readLogin_text (h.login login rfl), hserver, hdatabase]

theorem authority_readTarget {authority : List Char} (h : '/' ∉ authority)
    (database : List Char) :
    (readTarget authority database).authority = authority ∧
      (readTarget authority database).database.text = database ∧
      (readTarget authority database).IsPlain := by
  obtain ⟨hdatabase, hplain⟩ := text_readDatabase database
  rw [readTarget]
  split
  · rename_i login server hcut
    obtain ⟨rfl, hat⟩ := (Text.cutLast_singleton_iff (by decide)).mp hcut
    obtain ⟨hlogin, hlogin'⟩ := text_readLogin login
    obtain ⟨hserver, hserver'⟩ := text_readServer server
    have hauthority : Target.authority
        ⟨some (readLogin login), readServer server, readDatabase database⟩ =
        login ++ '@' :: server := by
      simp [Target.authority, hlogin, hserver]
    refine ⟨hauthority, hdatabase, ?_⟩
    exact {
      slash := hauthority ▸ h
      atSign := hserver.symm ▸ hat
      login := fun l hl => Option.mem_some_iff.mp hl ▸ hlogin'
      server := hserver'
      database := hplain }
  · rename_i hcut
    have hat := (Text.cutLast_singleton_eq_none_iff (by decide)).mp hcut
    obtain ⟨hserver, hserver'⟩ := text_readServer authority
    have hauthority : Target.authority
        ⟨none, readServer authority, readDatabase database⟩ = authority := hserver
    refine ⟨hauthority, hdatabase, ?_⟩
    exact {
      slash := hauthority.symm ▸ h
      atSign := hserver.symm ▸ hat
      login := fun l hl => by cases hl
      server := hserver'
      database := hplain }

/-- The target that an address leads to. -/
def readAddress (address : String) : Option Target :=
  if Target.scheme <+: address.toList then
    (Text.cutFirst ['/'] (address.toList.drop Target.scheme.length)).map
      fun (authority, database) => readTarget authority database
  else none

/-- An address is read as the one plain target that has it. -/
theorem readAddress_eq_some_iff {address : String} {t : Target} :
    readAddress address = some t ↔ t.address = address ∧ t.IsPlain := by
  constructor
  · intro h
    rw [readAddress, Option.ite_none_right_eq_some] at h
    obtain ⟨hscheme, hread⟩ := h
    obtain ⟨⟨authority, database⟩, hcut, rfl⟩ := Option.map_eq_some_iff.mp hread
    obtain ⟨hrest, hslash⟩ := Text.cutFirst_singleton_iff.mp hcut
    obtain ⟨hauthority, hdatabase, hplain⟩ := authority_readTarget hslash database
    refine ⟨?_, hplain⟩
    rw [Target.address, hauthority, hdatabase, ← hrest, List.prefix_iff_eq_append.mp hscheme,
      String.ofList_toList]
  · rintro ⟨rfl, hplain⟩
    have hcut : Text.cutFirst ['/'] (t.authority ++ '/' :: t.database.text) =
        some (t.authority, t.database.text) :=
      Text.cutFirst_singleton_iff.mpr ⟨rfl, hplain.slash⟩
    rw [readAddress, Target.address, String.toList_ofList, if_pos (List.prefix_append _ _),
      List.drop_left, hcut, Option.map_some]
    exact congrArg some (readTarget_authority hplain)

/-- The plain targets are those that are read back. -/
theorem readAddress_address_iff {t : Target} :
    readAddress t.address = some t ↔ t.IsPlain := by
  rw [readAddress_eq_some_iff, eq_self, true_and]

instance (t : Target) : Decidable t.IsPlain := decidable_of_iff _ readAddress_address_iff

/-- The address of a target leads somewhere, if not to the target itself. -/
theorem exists_readAddress_address (t : Target) : ∃ u, readAddress t.address = some u := by
  have hslash : Text.cutFirst ['/'] (t.authority ++ '/' :: t.database.text) ≠ none := by
    rw [ne_eq, Text.cutFirst_singleton_eq_none_iff, not_not]
    exact List.mem_append_right _ List.mem_cons_self
  obtain ⟨parts, hparts⟩ := Option.ne_none_iff_exists'.mp hslash
  rw [readAddress, Target.address, String.toList_ofList, if_pos (List.prefix_append _ _),
    List.drop_left, hparts]
  exact ⟨_, rfl⟩

namespace Connection

/-- The settings of two servers always give addresses, and settings that express the same give the
same one.  The address is read as exactly one plain target, which is the one that is expressed if
that is plain, and another one otherwise.  So plain settings with the same address express the
same. -/
theorem url_eq_url_iff {c c' : Connection} (hc : c.driver = .mysql) (hc' : c'.driver = .mysql)
    (hdb : isBlankText c.dbname = false) (hdb' : isBlankText c'.dbname = false) :
    (∃ address t, c.url = .ok address ∧ readAddress address = some t ∧ t.address = address ∧
      t.IsPlain ∧ (t = c.target ↔ c.target.IsPlain)) ∧
    (c.Agrees c' → c.url = c'.url) ∧
    (c.target.IsPlain → c'.target.IsPlain → (c.url = c'.url ↔ c.Agrees c')) := by
  rw [url_eq hc hdb, url_eq hc' hdb', agrees_iff]
  refine ⟨?_, fun h => h ▸ rfl, fun hplain hplain' => ?_⟩
  · obtain ⟨t, ht⟩ := exists_readAddress_address c.target
    obtain ⟨haddress, hplain⟩ := readAddress_eq_some_iff.mp ht
    refine ⟨_, t, rfl, ht, haddress, hplain, ?_, fun htarget => ?_⟩
    · rintro rfl
      exact hplain
    · rw [readAddress_address_iff.mpr htarget] at ht
      exact (Option.some.inj ht).symm
  · constructor
    · intro h
      have hread := readAddress_address_iff.mpr hplain
      rw [Except.ok.inj h, readAddress_address_iff.mpr hplain'] at hread
      exact (Option.some.inj hread).symm
    · intro h
      rw [h]

/-- The settings of the shop, with colons and an at sign in the password. -/
def shop : Connection :=
  ((mysql "db.local" " shop " "root" "s:cr@t:").withPort 3307).withCharset "utf8mb4"

/-- Their address is not that of a user without a password, and it is read as what they express. -/
theorem url_eq_url_iff_shop :
    shop.driver = .mysql ∧ isBlankText shop.dbname = false ∧ shop.target.IsPlain ∧
      shop.url ≠ { shop with password := none }.url ∧
      ∃ address, shop.url = .ok address ∧ readAddress address = some shop.target := by
  obtain ⟨⟨address, t, hurl, hread, -, -, hplain⟩, -, hsame⟩ :=
    @url_eq_url_iff shop { shop with password := none } rfl rfl (by decide) (by decide)
  have hshop : shop.target.IsPlain := by decide +kernel
  have hnone : { shop with password := none }.target.IsPlain := by decide +kernel
  refine ⟨rfl, by decide, hshop, fun hurls => ?_, address, hurl, hplain.mpr hshop ▸ hread⟩
  have hagrees := (hsame hshop hnone).mp hurls
  exact absurd (hagrees.password (by decide +kernel)) (by decide +kernel)

/-- A password that leads to another server, with the rest of it as the name of a database. -/
theorem password_leads_elsewhere :
    let c := mysql "localhost" "shop" "app" "x@db.evil/y"
    let c' := mysql "db.evil" "y@localhost/shop" "app" "x"
    c.url = .ok "mysql://app:x@db.evil/y@localhost/shop" ∧ c'.url = c.url ∧ ¬c.Agrees c' ∧
      readAddress "mysql://app:x@db.evil/y@localhost/shop" = some c'.target := by
  decide +kernel

end Connection

end FluentSql
