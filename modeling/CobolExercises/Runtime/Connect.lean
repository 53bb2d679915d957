/-
How a CONNECT puts the connection text together (`_ocesqlConnect`,
`_ocesqlConnectInformal` and the first half of `_ocesqlConnectMain`).

# The settings

A CONNECT gives a name, a user and a password, each in an item of its own
or all of them in one, as `user/password@name`. What is empty comes from
the environment. The name in turn is `dbname@host:port`, cut at the last
':' and then at the last '@'.

# The text

libpq gets the settings as words with blanks between them, and what is not
there leaves only its blank (`connstr`). As long as no setting has a blank
in it, the words of the text are the settings, in their order
(`settings_connstr`), and the two forms of a CONNECT that say the same give
the same text (`connect_read_back`).
-/
import CobolExercises.Runtime.Ocesql
import CobolExercises.Lib.Cut
import CobolExercises.Lib.Words

namespace CobolExercises.Runtime

open Lib Lib.Cut Lib.Words

-- ============================================================ the settings

/-- `getenv`. -/
abbrev Environment := Text → Option Text

/-- What is given, and otherwise what is in the environment. -/
def orGetenv (getenv : Environment) (key : String) (given : Text) :
    Option Text :=
  if given = [] then getenv key.toList else some given

/-- `real_dbname`, `dbhost` and `dbport`. -/
structure Dsn where
  dbname : Option Text
  host : Option Text
  port : Option Text
deriving DecidableEq

/-- The three parts of a name. -/
def dsnOf (name : Option Text) : Dsn :=
  match name with
  | none => ⟨none, none, none⟩
  | some name =>
      let byPort := cutLast ':' name
      let byHost := cutLast '@' byPort.1
      ⟨if byHost.1 = [] then none else some byHost.1, byHost.2, byPort.2⟩

-- ================================================================ the text

/-- A keyword with '=' and its value, if there is one. -/
def setting (keyword : String) : Option Text → Text
  | none => []
  | some value => keyword.toList ++ '=' :: value

/-- `connstr` of `_ocesqlConnectMain`. -/
def connstr (name user passwd : Option Text) : Text :=
  let dsn := dsnOf name
  setting "dbname" dsn.dbname ++ ' ' :: (setting "host" dsn.host
    ++ ' ' :: (setting "port" dsn.port
    ++ ' ' :: (setting "user" (user.filter (· ≠ []))
    ++ ' ' :: setting "password" (passwd.filter (· ≠ [])))))

/-- `_ocesqlConnect`. -/
def ocesqlConnectText (getenv : Environment) (user passwd name : Text) :
    Text :=
  connstr (orGetenv getenv "OCDB_DB_NAME" (getStrWithoutAfterSpace name))
    (orGetenv getenv "OCDB_DB_USER" (getStrWithoutAfterSpace user))
    (orGetenv getenv "OCDB_DB_PASS" (getStrWithoutAfterSpace passwd))

/-- `_ocesqlConnectInformal`. -/
def ocesqlConnectInformalText (getenv : Environment) (conninfo : Text) :
    Text :=
  let byDsn := cutFirst '@' (getStrWithoutAfterSpace conninfo)
  let byPasswd := cutFirst '/' byDsn.1
  connstr (orGetenv getenv "OCDB_DB_NAME" (byDsn.2.getD []))
    (orGetenv getenv "OCDB_DB_USER" byPasswd.1)
    (orGetenv getenv "OCDB_DB_PASS" (byPasswd.2.getD []))

-- ======================================================== read back again

/-- No blank is in a setting. -/
def Solid (value : Option Text) : Prop := ∀ text ∈ value, ' ' ∉ text

section ReadBack

variable {name user passwd value : Option Text} {text : Text}

/-- The words of a text, cut at the first '='. -/
def settings (connstr : Text) : List (Text × Option Text) :=
  (words ' ' connstr).map (cutFirst '=')

theorem settings_append_cons (l m : Text) :
    settings (l ++ ' ' :: m) = settings l ++ settings m := by
  rw [settings, words_append_cons, List.map_append]
  rfl

/-- A setting is read back. -/
theorem settings_setting {keyword : String} (hkeyword : '=' ∉ keyword.toList)
    (hblank : ' ' ∉ keyword.toList) (hvalue : Solid value) :
    settings (setting keyword value)
      = (value.map fun text => (keyword.toList, some text)).toList := by
  cases value with
  | none => rfl
  | some text =>
      have htext : ' ' ∉ text := hvalue text rfl
      have hsolid : ' ' ∉ keyword.toList ++ '=' :: text := by
        simp [hblank, htext]
      have hne : keyword.toList ++ '=' :: text ≠ [] := by simp
      rw [setting, settings, words_of_not_mem hsolid, if_neg hne,
        List.map_singleton, cutFirst_append hkeyword]
      rfl

/-- The settings that are there. -/
def givenSettings (name user passwd : Option Text) : List (Text × Option Text) :=
  let dsn := dsnOf name
  [("dbname", dsn.dbname), ("host", dsn.host), ("port", dsn.port),
    ("user", user.filter (· ≠ [])),
    ("password", passwd.filter (· ≠ []))].filterMap
      fun (p : String × Option Text) =>
        p.2.map fun text => (p.1.toList, some text)

/-- The words of the connection text are the settings. -/
theorem settings_connstr (hname : Solid (dsnOf name).dbname)
    (hhost : Solid (dsnOf name).host) (hport : Solid (dsnOf name).port)
    (huser : Solid user) (hpasswd : Solid passwd) :
    settings (connstr name user passwd) = givenSettings name user passwd := by
  have hfilter : ∀ {value : Option Text}, Solid value
      → Solid (value.filter (· ≠ [])) := by
    intro value h text ht
    exact h text (Option.mem_filter_iff.mp ht).1
  have htoList : ∀ (keyword : String) (value : Option Text)
      (rest : List (String × Option Text)),
      (((keyword, value) :: rest).filterMap fun p : String × Option Text =>
          p.2.map fun text => (p.1.toList, some text))
        = (value.map fun text => (keyword.toList, some text)).toList
          ++ rest.filterMap fun p : String × Option Text =>
            p.2.map fun text => (p.1.toList, some text) := by
    intro keyword value rest
    cases value with
    | none => rfl
    | some text => rfl
  unfold connstr givenSettings
  dsimp only
  rw [settings_append_cons, settings_append_cons, settings_append_cons,
    settings_append_cons, htoList, htoList, htoList, htoList, htoList,
    settings_setting (by decide) (by decide) hname,
    settings_setting (by decide) (by decide) hhost,
    settings_setting (by decide) (by decide) hport,
    settings_setting (by decide) (by decide) (hfilter huser),
    settings_setting (by decide) (by decide) (hfilter hpasswd)]
  rw [List.filterMap_nil, List.append_nil]

/-- The blanks an item is filled up with are cut off. -/
theorem getStrWithoutAfterSpace_padded (hblank : ' ' ∉ text)
    (hnul : '\x00' ∉ text) (n : Nat) :
    getStrWithoutAfterSpace (text ++ List.replicate n ' ') = text := by
  induction text with
  | nil =>
      cases n with
      | zero => rfl
      | succ n => rfl
  | cons c text ih =>
      obtain ⟨hc, htext⟩ := List.ne_and_not_mem_of_not_mem_cons hblank
      obtain ⟨hc₀, htext₀⟩ := List.ne_and_not_mem_of_not_mem_cons hnul
      rw [List.cons_append, getStrWithoutAfterSpace, List.takeWhile_cons,
        if_pos (by simp [hc.symm, hc₀.symm])]
      exact congrArg (c :: ·) (ih htext htext₀)

/-- A name as it is written: host and port may be left out. -/
def nameText (dbname : Text) (host port : Option Text) : Text :=
  dbname ++ (host.elim [] ('@' :: ·) ++ port.elim [] (':' :: ·))

/-- The name is cut where its parts were put together. -/
theorem dsnOf_nameText {dbname : Text} {host port : Option Text}
    (hdbname : dbname ≠ []) (hat : ∀ text ∈ dbname :: host.toList, '@' ∉ text)
    (hcolon : ∀ text ∈ dbname :: (host.toList ++ port.toList), ':' ∉ text) :
    dsnOf (some (nameText dbname host port))
      = ⟨some dbname, host, port⟩ := by
  have hfront : ':' ∉ dbname ++ host.elim [] ('@' :: ·) := by
    have hdbname' := hcolon dbname (by simp)
    cases host with
    | none => simpa using hdbname'
    | some host =>
        have hhost := hcolon host (by simp)
        simp [hdbname', hhost]
  have hport : cutLast ':' (nameText dbname host port)
      = (dbname ++ host.elim [] ('@' :: ·), port) := by
    unfold nameText
    rw [← List.append_assoc]
    cases port with
    | none =>
        rw [Option.elim_none, List.append_nil]
        exact cutLast_of_not_mem hfront
    | some port => exact cutLast_append (hcolon port (by simp))
  have hhost : cutLast '@' (dbname ++ host.elim [] ('@' :: ·))
      = (dbname, host) := by
    cases host with
    | none =>
        rw [Option.elim_none, List.append_nil]
        exact cutLast_of_not_mem (hat dbname (by simp))
    | some host => exact cutLast_append (hat host (by simp))
  unfold dsnOf
  dsimp only
  rw [hport, hhost, if_neg hdbname]

theorem not_mem_nameText {dbname : Text} {host port : Option Text} {c : Char}
    (hat : c ≠ '@') (hcolon : c ≠ ':')
    (h : ∀ text ∈ dbname :: (host.toList ++ port.toList), c ∉ text) :
    c ∉ nameText dbname host port := by
  have hdbname := h dbname (by simp)
  have hhost : c ∉ host.elim [] ('@' :: ·) := by
    cases host with
    | none => exact List.not_mem_nil
    | some host =>
        have hhost := h host (by simp)
        simp [hat, hhost]
  have hport : c ∉ port.elim [] (':' :: ·) := by
    cases port with
    | none => exact List.not_mem_nil
    | some port =>
        have hport := h port (by simp)
        simp [hcolon, hport]
  simp [nameText, hdbname, hhost, hport]

theorem orGetenv_of_ne_nil {getenv : Environment} (key : String)
    (h : text ≠ []) : orGetenv getenv key text = some text :=
  if_neg h

/-- A setting that is given, and otherwise the one in the environment; an
empty one is none. -/
def given (getenv : Environment) (key : String) (text : Text) : Option Text :=
  (orGetenv getenv key text).filter (· ≠ [])

theorem solid_orGetenv {getenv : Environment} {key : String}
    (henv : Solid (getenv key.toList)) (h : ' ' ∉ text) :
    Solid (orGetenv getenv key text) := by
  unfold orGetenv
  split
  · exact henv
  · rintro text ⟨⟩
    exact h

/-- The items of a CONNECT are cut at their blanks. -/
theorem ocesqlConnectText_padded (getenv : Environment)
    {user passwd name : Text}
    (hblank : ∀ text ∈ [user, passwd, name], ' ' ∉ text)
    (hnul : ∀ text ∈ [user, passwd, name], '\x00' ∉ text) (m n k : Nat) :
    ocesqlConnectText getenv (user ++ List.replicate m ' ')
        (passwd ++ List.replicate n ' ') (name ++ List.replicate k ' ')
      = connstr (orGetenv getenv "OCDB_DB_NAME" name)
        (orGetenv getenv "OCDB_DB_USER" user)
        (orGetenv getenv "OCDB_DB_PASS" passwd) := by
  have hcut {text : Text} (hmem : text ∈ [user, passwd, name]) (n : Nat) :
      getStrWithoutAfterSpace (text ++ List.replicate n ' ') = text :=
    getStrWithoutAfterSpace_padded (hblank text hmem) (hnul text hmem) n
  rw [ocesqlConnectText, hcut (by simp), hcut (by simp), hcut (by simp)]

/-- The settings of a CONNECT, the items padded with blanks, are the words
of the connection text, in order, and a CONNECT with one item for all of
them makes the same text. -/
theorem connect_read_back (getenv : Environment)
    (user passwd dbname : Text) (host port : Option Text)
    (hblank : ∀ text ∈ user :: passwd :: dbname
      :: (host.toList ++ port.toList), ' ' ∉ text)
    (hnul : ∀ text ∈ user :: passwd :: dbname
      :: (host.toList ++ port.toList), '\x00' ∉ text)
    (henv : ∀ key ∈ ["OCDB_DB_USER", "OCDB_DB_PASS"],
      Solid (getenv key.toList))
    (hdbname : dbname ≠ []) (hat : ∀ text ∈ dbname :: host.toList, '@' ∉ text)
    (hcolon : ∀ text ∈ dbname :: (host.toList ++ port.toList), ':' ∉ text)
    (huser : '/' ∉ user) (hitem : '@' ∉ user ++ '/' :: passwd)
    (m n k j : Nat) :
    settings (ocesqlConnectText getenv (user ++ List.replicate m ' ')
        (passwd ++ List.replicate n ' ')
        (nameText dbname host port ++ List.replicate k ' '))
      = [("dbname", some dbname), ("host", host), ("port", port),
          ("user", given getenv "OCDB_DB_USER" user),
          ("password", given getenv "OCDB_DB_PASS" passwd)].filterMap
        (fun (p : String × Option Text) =>
          p.2.map fun text => (p.1.toList, some text))
    ∧ ocesqlConnectInformalText getenv (user ++ '/' :: passwd
        ++ '@' :: nameText dbname host port ++ List.replicate j ' ')
      = ocesqlConnectText getenv (user ++ List.replicate m ' ')
        (passwd ++ List.replicate n ' ')
        (nameText dbname host port ++ List.replicate k ' ') := by
  have huserblank := hblank user (by simp)
  have hpasswdblank := hblank passwd (by simp)
  have hname : ' ' ∉ nameText dbname host port :=
    not_mem_nameText (by decide) (by decide) fun text htext =>
      hblank text (List.mem_cons_of_mem _ (List.mem_cons_of_mem _ htext))
  have husernul := hnul user (by simp)
  have hpasswdnul := hnul passwd (by simp)
  have hnamenul : '\x00' ∉ nameText dbname host port :=
    not_mem_nameText (by decide) (by decide) fun text htext =>
      hnul text (List.mem_cons_of_mem _ (List.mem_cons_of_mem _ htext))
  have hnamene : nameText dbname host port ≠ [] := by
    simp [nameText, hdbname]
  have hdsn := dsnOf_nameText hdbname hat hcolon
  have htext : ocesqlConnectText getenv (user ++ List.replicate m ' ')
      (passwd ++ List.replicate n ' ')
      (nameText dbname host port ++ List.replicate k ' ')
      = connstr (some (nameText dbname host port))
        (orGetenv getenv "OCDB_DB_USER" user)
        (orGetenv getenv "OCDB_DB_PASS" passwd) := by
    rw [ocesqlConnectText_padded getenv
      (by simp [huserblank, hpasswdblank, hname])
      (by simp [husernul, hpasswdnul, hnamenul]),
      orGetenv_of_ne_nil _ hnamene]
  rw [htext]
  constructor
  · rw [settings_connstr]
    · unfold givenSettings
      rw [hdsn]
      rfl
    · rw [hdsn]
      rintro text ⟨⟩
      exact hblank dbname (by simp)
    · rw [hdsn]
      intro text htext
      have hmem : host = some text := htext
      exact hblank text (by simp [hmem])
    · rw [hdsn]
      intro text htext
      have hmem : port = some text := htext
      exact hblank text (by simp [hmem])
    · exact solid_orGetenv (henv _ (by simp)) huserblank
    · exact solid_orGetenv (henv _ (by simp)) hpasswdblank
  -- one item for all: it is cut at its @, and in front of that at its /
  · have hall : ' ' ∉ user ++ '/' :: passwd
        ++ '@' :: nameText dbname host port := by
      simp [huserblank, hpasswdblank, hname]
    have hallnul : '\x00' ∉ user ++ '/' :: passwd
        ++ '@' :: nameText dbname host port := by
      simp [husernul, hpasswdnul, hnamenul]
    rw [ocesqlConnectInformalText,
      getStrWithoutAfterSpace_padded hall hallnul,
      cutFirst_append hitem]
    dsimp only
    rw [cutFirst_append huser, Option.getD_some, Option.getD_some,
      orGetenv_of_ne_nil _ hnamene]

/-- The programs of this repository: no password, and a name without host
and port. -/
theorem connect_read_back_testdb :
    settings (ocesqlConnectText (fun _ => none) "postgres  ".toList
        "          ".toList "testdb    ".toList)
      = [("dbname".toList, some "testdb".toList),
        ("user".toList, some "postgres".toList)] := by
  have hread := connect_read_back (fun _ => none) "postgres".toList
    [] "testdb".toList none none (by decide) (by decide)
    (fun _ _ _ h => nomatch h)
    (by decide) (by decide) (by decide) (by decide) (by decide) 2 10 4 0
  exact hread.1

end ReadBack

end CobolExercises.Runtime
