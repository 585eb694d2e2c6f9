/-
  A user read back, among any number of calls (user-service/internal/handler/user_handler.go,
  user-service/internal/service/user_service.go, user-service/internal/repository/user_repository.go,
  user-service/internal/db/postgres.go).

  Every call makes one statement at most.  A statement fails at will, and an `INSERT` whose caller has
  been told of a failure may still take effect, at any later time.  So a table has more rows than
  there are users that somebody was told of; what it never has is two rows of one id, or a row that
  is not what it was when it was inserted.
-/
import Mathlib.Data.List.DropRight
import Microservices.Gateway.Lookups
import Microservices.Lib.Concurrent

namespace Microservices.User

open Microservices.Order (Failure UserResponse)
open Concurrent (Call Protocol Sys Step)

/-! ## The service -/

/-- `strings.TrimSpace`. -/
@[irreducible] def trimSpace (s : String) : String :=
  String.ofList ((s.toList.dropWhile isSpace).rdropWhile isSpace)

/-- The statements. -/
inductive UserOp : Type where
  | insert (name email : String)
  | selectById (id : String)

/-- What each ends with. -/
abbrev UserRes : UserOp → Type
  | .insert .. => Except JsError UserRow
  | .selectById _ => Except JsError (Option UserRow)

/-- Code of the service. -/
abbrev UserM (α : Type) : Type := ExceptT UserError (Prog UserOp UserRes) α

/-- A statement, awaited. -/
def query (op : UserOp) : UserM (UserRes op) := ExceptT.lift (Prog.ask op)

/-- `Create` of the repository. -/
def UserRepository.create (name email : String) : UserM UserRow := do
  match ← query (.insert name email) with
  | .ok u => return u
  | .error err => throw (.other err)

/-- `GetByID` of the repository. -/
def UserRepository.getByID (id : String) : UserM UserRow := do
  let result ← query (.selectById id)
  ExceptT.mk (pure (User.getByID result))

/-- `CreateUser` of the service. -/
def UserService.createUser (name email : String) : UserM UserRow :=
  let name := trimSpace name
  let email := trimSpace email
  if name = "" then throw (.validation "name is required")
  else if email = "" then throw (.validation "email is required")
  else UserRepository.create name email

/-- `GetUser` of the service. -/
def UserService.getUser (id : String) : UserM UserRow :=
  if trimSpace id = "" then throw (.validation "id is required") else UserRepository.getByID id

/-- What a handler calls back with. -/
abbrev Reply : Type := Except Failure UserResponse

/-- A row as a response. -/
def UserRow.response (u : UserRow) : UserResponse := ⟨u.id, u.name, u.email⟩

/-- The handler around the service. -/
def UserHandler.answer (service : UserM UserRow) : Prog UserOp UserRes Reply := do
  match ← service.run with
  | .ok u => return .ok u.response
  | .error err => return .error (toGRPCError err)

/-- What the service is called for. -/
inductive Request : Type where
  | createUser (name email : String)
  | getUser (id : String)
  deriving DecidableEq

/-- `CreateUser` and `GetUser` of the handler. -/
def program : Request → Prog UserOp UserRes Reply
  | .createUser name email => UserHandler.answer (UserService.createUser name email)
  | .getUser id => UserHandler.answer (UserService.getUser id)

/-! ## Blanks -/

/-- Nothing is left of blanks only. -/
theorem trimSpace_eq_empty {s : String} : trimSpace s = "" ↔ s.toList.all isSpace = true := by
  have hempty : trimSpace s = "" ↔ (s.toList.dropWhile isSpace).rdropWhile isSpace = [] := by
    unfold trimSpace
    rw [← String.toList_inj, String.toList_ofList]
    rfl
  rw [hempty, List.rdropWhile_eq_nil_iff, List.all_eq_true]
  constructor
  · intro h c hc
    by_contra hnot
    have hne : s.toList.dropWhile isSpace ≠ [] := by
      intro hnil
      exact hnot (List.dropWhile_eq_nil_iff.mp hnil c hc)
    -- what is left begins with a character that is no space
    have hhead := List.head_dropWhile_not isSpace hne
    rw [h _ (List.head_mem hne)] at hhead
    cases hhead
  · intro h c hc
    exact h c (List.dropWhile_subset _ hc)

/-- What is trimmed stays as it is. -/
theorem trimSpace_trimSpace (s : String) : trimSpace (trimSpace s) = trimSpace s := by
  let m := s.toList.dropWhile isSpace
  -- cutting the end off leaves the start as it was
  have hstart : (m.rdropWhile isSpace).dropWhile isSpace = m.rdropWhile isSpace := by
    rw [List.dropWhile_eq_self_iff]
    intro hpos
    have hpre : m.rdropWhile isSpace <+: m := List.rdropWhile_prefix isSpace m
    rw [hpre.getElem hpos]
    exact List.dropWhile_eq_self_iff.mp (List.dropWhile_idempotent isSpace s.toList) _
  have htext : (trimSpace s).toList = m.rdropWhile isSpace := by
    unfold trimSpace
    exact String.toList_ofList
  rw [← String.toList_inj, htext]
  unfold trimSpace
  rw [String.toList_ofList, String.toList_ofList, hstart, List.rdropWhile_idempotent]

/-- A text that may stand in a column of `users`: trimmed, and not empty. -/
def Trimmed (s : String) : Prop := trimSpace s = s ∧ s ≠ ""

/-- A text is trimmed once it has been, unless nothing is left. -/
theorem trimmed_trimSpace {s : String} (h : trimSpace s ≠ "") : Trimmed (trimSpace s) :=
  ⟨trimSpace_trimSpace s, h⟩

/-! ## The table -/

/-- The rows in the order of their inserts, and the `INSERT`s that were reported as failed and may
    still take effect. -/
structure Users where
  rows : List UserRow
  late : List (String × String)

/-- No row has the id: `gen_random_uuid` draws such a one, and the primary key rejects any other. -/
def Users.Fresh (d : Users) (id : String) : Prop := StoredId id ∧ ∀ row ∈ d.rows, row.id ≠ id

/-- Some of the late `INSERT`s take effect. -/
inductive Users.Catches (d : Users) : Users → Prop where
  | refl : Catches d d
  | insert {d' : Users} {id name email : String} (h : Catches d d')
      (hlate : (name, email) ∈ d'.late) (hfresh : d'.Fresh id) :
      Catches d ⟨d'.rows ++ [⟨id, name, email⟩], d'.late.erase (name, email)⟩

/-- A statement, and what it ends with. -/
inductive Serve : (op : UserOp) → Users → UserRes op → Users → Prop where
  | inserted {d d' : Users} {id name email : String} (h : d.Catches d') (hfresh : d'.Fresh id) :
      Serve (.insert name email) d (.ok ⟨id, name, email⟩)
        ⟨d'.rows ++ [⟨id, name, email⟩], d'.late⟩
  | insertFailed {d d' : Users} {name email : String} (h : d.Catches d') (err : JsError) :
      Serve (.insert name email) d (.error err) d'
  | insertLate {d d' : Users} {name email : String} (h : d.Catches d') (err : JsError) :
      Serve (.insert name email) d (.error err) ⟨d'.rows, (name, email) :: d'.late⟩
  | selected {d d' : Users} {id : String} (h : d.Catches d') :
      Serve (.selectById id) d (.ok (d'.rows.find? fun row => decide (row.id = id))) d'
  | selectFailed {d d' : Users} {id : String} (h : d.Catches d') (err : JsError) :
      Serve (.selectById id) d (.error err) d'

/-- A row that the service may have inserted. -/
def UserRow.Wellformed (row : UserRow) : Prop :=
  StoredId row.id ∧ Trimmed row.name ∧ Trimmed row.email

/-- What holds of the table: no two rows of one id, and every row is one the service inserts. -/
structure Users.Valid (d : Users) : Prop where
  keyed : (d.rows.map UserRow.id).Nodup
  rows : ∀ row ∈ d.rows, row.Wellformed
  late : ∀ p ∈ d.late, Trimmed p.1 ∧ Trimmed p.2

/-- Rows are only ever added. -/
def Users.Grows (d d' : Users) : Prop := d.rows <+: d'.rows

/-- The answer stays true of the table. -/
def Tells (d : Users) : (op : UserOp) → UserRes op → Prop
  | .insert name email, .ok row => row ∈ d.rows ∧ row.name = name ∧ row.email = email
  | .selectById id, .ok (some row) => row ∈ d.rows ∧ row.id = id
  | _, _ => True

section Table

variable {d d' : Users} {id name email : String}

/-- A trimmed user under a fresh id leaves the table valid. -/
theorem Users.Valid.insert (h : d.Valid) (hfresh : d.Fresh id) (hname : Trimmed name)
    (hemail : Trimmed email) {late : List (String × String)} (hlate : ∀ p ∈ late, p ∈ d.late) :
    Users.Valid ⟨d.rows ++ [⟨id, name, email⟩], late⟩ where
  keyed := by
    rw [List.map_append, List.nodup_append]
    refine ⟨h.keyed, List.nodup_singleton _, ?_⟩
    -- the new row's id is fresh
    intro x hx y hy hxy
    obtain ⟨row, hrow, rfl⟩ := List.mem_map.mp hx
    rw [List.mem_singleton.mp hy] at hxy
    exact hfresh.2 row hrow hxy
  rows row hrow := by
    rcases List.mem_append.mp hrow with hold | hnew
    · exact h.rows row hold
    · rw [List.mem_singleton.mp hnew]
      exact ⟨hfresh.1, hname, hemail⟩
  late p hp := h.late p (hlate p hp)

/-- So do statements that are executed late. -/
theorem Users.Catches.valid (h : d.Catches d') (hd : d.Valid) : d'.Valid ∧ d.Grows d' := by
  induction h with
  | refl => exact ⟨hd, List.prefix_refl _⟩
  | insert h hlate hfresh ih =>
    obtain ⟨hvalid, hgrows⟩ := ih
    obtain ⟨hname, hemail⟩ := hvalid.late _ hlate
    exact ⟨hvalid.insert hfresh hname hemail fun p hp => List.mem_of_mem_erase hp,
      hgrows.trans (List.prefix_append _ _)⟩

/-- A row is found by its id. -/
theorem Users.Valid.find (h : d.Valid) {row : UserRow} (hrow : row ∈ d.rows) :
    (d.rows.find? fun r => decide (r.id = row.id)) = some row :=
  Gateway.find?_of_nodup h.keyed hrow

/-- What the table has told stays true of one that has grown. -/
theorem Tells.mono (hgrows : d.Grows d') {op : UserOp} {r : UserRes op} (h : Tells d op r) :
    Tells d' op r := by
  cases op with
  | insert name email =>
    cases r with
    | ok row => exact ⟨hgrows.subset h.1, h.2⟩
    | error err => trivial
  | selectById id =>
    match r, h with
    | .ok (some row), h => exact ⟨hgrows.subset h.1, h.2⟩
    | .ok none, _ => trivial
    | .error err, _ => trivial

end Table

/-! ## The programs -/

/-- Where the program of a request may stand. -/
def Says : Request → Prog.Log UserOp UserRes → Prog UserOp UserRes Reply → Prop
  | .createUser name email, _, .await op _ =>
    op = .insert (trimSpace name) (trimSpace email) ∧ Trimmed (trimSpace name) ∧
      Trimmed (trimSpace email)
  | .createUser name email, L, .ret reply => ∀ u, reply = .ok u → ∃ row : UserRow,
    ⟨.insert (trimSpace name) (trimSpace email), .ok row⟩ ∈ L ∧ Trimmed (trimSpace name) ∧
      Trimmed (trimSpace email) ∧ u = row.response
  | .getUser id, _, .await op _ => op = .selectById id
  | .getUser id, L, .ret reply =>
    reply = .error ⟨.internal, "internal error"⟩ ∨
      (id.toList.all isSpace = true ∧ reply = .error ⟨.invalidArgument, "id is required"⟩) ∨
      ∃ found, ⟨.selectById id, .ok found⟩ ∈ L ∧ reply = match found with
        | some row => .ok row.response
        | none => .error ⟨.notFound, "user not found"⟩

/-- What the handler makes of what the service ends with. -/
def reply : Except UserError UserRow → Reply
  | .ok u => .ok u.response
  | .error err => .error (toGRPCError err)

/-- An error is answered as its gRPC status. -/
theorem answer_throw (err : UserError) :
    UserHandler.answer (throw err) = .ret (.error (toGRPCError err)) := rfl

/-- `create` is one INSERT, and its reply. -/
theorem answer_create (name email : String) :
    UserHandler.answer (UserRepository.create name email) =
      .await (.insert name email) fun r => .ret (reply (r.mapError .other)) := by
  refine congrArg (Prog.await _) (funext fun r => ?_)
  cases r with
  | ok row => rfl
  | error err => rfl

/-- `getByID` is one SELECT, and its reply. -/
theorem answer_getByID (id : String) :
    UserHandler.answer (UserRepository.getByID id) =
      .await (.selectById id) fun r => .ret (reply (User.getByID r)) := by
  refine congrArg (Prog.await _) (funext fun r => ?_)
  match r with
  | .error err => rfl
  | .ok none => rfl
  | .ok (some row) => rfl

/-- `CreateUser` says what it was told. -/
theorem createUser_says (name email : String) :
    Prog.Along (Says (.createUser name email)) [] (program (.createUser name email)) := by
  show Prog.Along _ [] (UserHandler.answer (UserService.createUser name email))
  unfold UserService.createUser
  rcases eq_or_ne (trimSpace name) "" with hname | hname
  · rw [if_pos hname, answer_throw]
    exact fun u hu => nomatch hu
  · rw [if_neg hname]
    rcases eq_or_ne (trimSpace email) "" with hemail | hemail
    · rw [if_pos hemail, answer_throw]
      exact fun u hu => nomatch hu
    · rw [if_neg hemail, answer_create]
      -- what is stored has been trimmed, and is not empty
      have hstored := And.intro (trimmed_trimSpace hname) (trimmed_trimSpace hemail)
      refine ⟨⟨rfl, hstored⟩, fun r => ?_⟩
      cases r with
      | error err => exact fun u hu => nomatch hu
      | ok row =>
        intro u hu
        cases hu
        exact ⟨row, List.mem_cons_self, hstored.1, hstored.2, rfl⟩

/-- `GetUser` says what it was told. -/
theorem getUser_says (id : String) :
    Prog.Along (Says (.getUser id)) [] (program (.getUser id)) := by
  show Prog.Along _ [] (UserHandler.answer (UserService.getUser id))
  unfold UserService.getUser
  rcases eq_or_ne (trimSpace id) "" with hid | hid
  · rw [if_pos hid, answer_throw]
    exact Or.inr (Or.inl ⟨trimSpace_eq_empty.mp hid, rfl⟩)
  · rw [if_neg hid, answer_getByID]
    refine ⟨rfl, fun r => ?_⟩
    match r with
    | .error err => exact Or.inl rfl
    | .ok none => exact Or.inr (Or.inr ⟨none, List.mem_cons_self, rfl⟩)
    | .ok (some row) => exact Or.inr (Or.inr ⟨some row, List.mem_cons_self, rfl⟩)

/-- **Every call does.** -/
theorem program_says (q : Request) : Prog.Along (Says q) [] (program q) := by
  cases q with
  | createUser name email => exact createUser_says name email
  | getUser id => exact getUser_says id

/-! ## Any number of calls -/

section Calls

variable {d d' : Users}

/-- One statement of one call. -/
theorem Serve.kept {q : Request} {L : Prog.Log UserOp UserRes} {op : UserOp}
    {k : UserRes op → Prog UserOp UserRes Reply} {r : UserRes op} (hserve : Serve op d r d')
    (hd : d.Valid) (hsaid : Says q L (.await op k)) : d'.Valid ∧ d.Grows d' ∧ Tells d' op r := by
  cases hserve with
  | inserted h hfresh =>
    obtain ⟨hvalid, hgrows⟩ := h.valid hd
    cases q with
    | getUser id => cases hsaid
    | createUser name email =>
      obtain ⟨hop, hname, hemail⟩ := hsaid
      cases hop
      exact ⟨hvalid.insert hfresh hname hemail fun p hp => hp,
        hgrows.trans (List.prefix_append _ _), List.mem_append_right _ List.mem_cons_self, rfl, rfl⟩
  | insertFailed h err => exact ⟨(h.valid hd).1, (h.valid hd).2, trivial⟩
  | insertLate h err =>
    obtain ⟨hvalid, hgrows⟩ := h.valid hd
    cases q with
    | getUser id => cases hsaid
    | createUser name email =>
      obtain ⟨hop, hname, hemail⟩ := hsaid
      cases hop
      refine ⟨⟨hvalid.keyed, hvalid.rows, fun p hp => ?_⟩, hgrows, trivial⟩
      -- the INSERT that may still come carries trimmed values
      rcases List.mem_cons.mp hp with rfl | hold
      · exact ⟨hname, hemail⟩
      · exact hvalid.late p hold
  | @selected _ _ id h =>
    refine ⟨(h.valid hd).1, (h.valid hd).2, ?_⟩
    cases hfound : d'.rows.find? fun row => decide (row.id = id) with
    | none => trivial
    | some row =>
      have hid := List.find?_some hfound
      exact ⟨List.mem_of_find?_eq_some hfound, of_decide_eq_true hid⟩
  | selectFailed h err => exact ⟨(h.valid hd).1, (h.valid hd).2, trivial⟩

/-- What the argument about the calls consists of. -/
def users : Protocol program Serve where
  Inv := Users.Valid
  Told := Tells
  Rely := Users.Grows
  Says := Says
  refl _ := List.prefix_refl _
  trans h h' := List.IsPrefix.trans h h'
  mono hgrows h := h.mono hgrows
  obeys := program_says
  serve hd hsaid _ hserve := hserve.kept hd hsaid

/-- Any number of calls. -/
abbrev State : Type := Sys UserOp UserRes (fun _ : Request => Reply) Users

/-- No users, and no calls. -/
def State.init : State := Sys.start ⟨[], []⟩

/-- Any run. -/
abbrev Runs : State → State → Prop := Concurrent.Runs program Serve

/-- Call `i` has been made for `q` and is answered `reply`. -/
def Answered (s : State) (i : Nat) (q : Request) (reply : Reply) : Prop :=
  ∃ c, s.calls[i]? = some c ∧ c.req = q ∧ c.thread.prog = .ret reply

/-- Somebody has asked for a user of this name and address. -/
def Requested (s : State) (name email : String) : Prop :=
  ∃ c ∈ s.calls, ∃ name' email', c.req = .createUser name' email' ∧ name = trimSpace name' ∧
    email = trimSpace email'

/-- Whoever is in the table, or may still get there, has been asked for. -/
structure Sourced (s : State) : Prop where
  rows : ∀ row ∈ s.data.rows, Requested s row.name row.email
  late : ∀ p ∈ s.data.late, Requested s p.1 p.2

variable {s s' : State}

/-- An empty table is valid. -/
theorem valid_init : Users.Valid ⟨[], []⟩ where
  keyed := List.nodup_nil
  rows _ h := nomatch h
  late _ h := nomatch h

/-- Every state of a run is sound. -/
theorem sound_runs (hrun : Runs State.init s) : users.Sound s :=
  (users.sound_runs (users.sound_start valid_init) hrun).1

/-- What has been asked for stays so. -/
theorem Requested.step {ev : Concurrent.Event UserOp UserRes Request}
    (hstep : Step program Serve s ev s') {name email : String} (h : Requested s name email) :
    Requested s' name email := by
  obtain ⟨c, hc, hreq⟩ := h
  cases hstep with
  | call q => exact ⟨c, List.mem_append_left _ hc, hreq⟩
  | @serve c' _ k r _ i hi hp hd =>
    obtain ⟨j, hj⟩ := List.getElem?_of_mem hc
    by_cases hij : i = j
    · subst hij
      cases hi.symm.trans hj
      exact ⟨_, List.mem_set (List.getElem?_eq_some_iff.mp hi).1 _, hreq⟩
    · refine ⟨c, List.mem_of_getElem? (i := j) ?_, hreq⟩
      rw [List.getElem?_set_ne hij]
      exact hj

/-- The late `INSERT`s that take effect have been asked for. -/
theorem Users.Catches.sourced {P : String → String → Prop} (h : d.Catches d')
    (hrows : ∀ row ∈ d.rows, P row.name row.email) (hlate : ∀ p ∈ d.late, P p.1 p.2) :
    (∀ row ∈ d'.rows, P row.name row.email) ∧ ∀ p ∈ d'.late, P p.1 p.2 := by
  induction h with
  | refl => exact ⟨hrows, hlate⟩
  | insert h hmem hfresh ih =>
    refine ⟨fun row hrow => ?_, fun p hp => ih.2 p (List.mem_of_mem_erase hp)⟩
    rcases List.mem_append.mp hrow with hold | hnew
    · exact ih.1 row hold
    · rw [List.mem_singleton.mp hnew]
      exact ih.2 _ hmem

/-- **Every step keeps the users traced to their requests.** -/
theorem sourced_step (hsound : users.Sound s) (h : Sourced s)
    {ev : Concurrent.Event UserOp UserRes Request} (hstep : Step program Serve s ev s') :
    Sourced s' := by
  have hrequested := fun name email => @Requested.step s s' ev hstep name email
  cases hstep with
  | call q =>
    exact ⟨fun row hrow => hrequested _ _ (h.rows row hrow), fun p hp => hrequested _ _ (h.late p hp)⟩
  | @serve c op k r d i hi hp hd =>
    have hsaid : Says c.req c.thread.log (.await op k) :=
      (hsound.obeys c (List.mem_of_getElem? hi)).standsAt hp
    -- what the call inserts it was made for
    have hown : ∀ name email, op = .insert name email → Requested s name email := by
      rintro name email rfl
      refine ⟨c, List.mem_of_getElem? hi, ?_⟩
      cases hq : c.req with
      | getUser id =>
        rw [hq] at hsaid
        cases hsaid
      | createUser name' email' =>
        rw [hq] at hsaid
        obtain ⟨hname, hemail⟩ := UserOp.insert.inj hsaid.1
        exact ⟨name', email', rfl, hname, hemail⟩
    have hcatch : ∀ {d' : Users}, s.data.Catches d' →
        (∀ row ∈ d'.rows, Requested s row.name row.email) ∧ ∀ p ∈ d'.late, Requested s p.1 p.2 :=
      fun hc => hc.sourced h.rows h.late
    suffices hold : (∀ row ∈ d.rows, Requested s row.name row.email) ∧
        ∀ p ∈ d.late, Requested s p.1 p.2 from
      ⟨fun row hrow => hrequested _ _ (hold.1 row hrow), fun p hp => hrequested _ _ (hold.2 p hp)⟩
    cases hd with
    | inserted hc hfresh =>
      refine ⟨fun row hrow => ?_, (hcatch hc).2⟩
      rcases List.mem_append.mp hrow with hold | hnew
      · exact (hcatch hc).1 row hold
      · rw [List.mem_singleton.mp hnew]
        exact hown _ _ rfl
    | insertFailed hc err => exact hcatch hc
    | insertLate hc err =>
      refine ⟨(hcatch hc).1, fun p hp => ?_⟩
      rcases List.mem_cons.mp hp with rfl | hold
      · exact hown _ _ rfl
      · exact (hcatch hc).2 p hold
    | selected hc => exact hcatch hc
    | selectFailed hc err => exact hcatch hc

/-- So does every run. -/
theorem sourced_runs (hrun : Runs State.init s) : Sourced s := by
  induction hrun with
  | refl => exact ⟨fun _ h => (nomatch h), fun _ h => (nomatch h)⟩
  | tail hrun₁ hstep ih =>
    obtain ⟨ev, hev⟩ := hstep
    exact sourced_step (sound_runs hrun₁) ih hev

/-! ## What the callers are told -/

/-- A user that was created is in the table. -/
theorem Answered.created (hsound : users.Sound s) {i : Nat} {name email : String} {u : UserResponse}
    (h : Answered s i (.createUser name email) (.ok u)) :
    ∃ row ∈ s.data.rows, u = row.response ∧ row.name = trimSpace name ∧
      row.email = trimSpace email := by
  obtain ⟨c, hi, hreq, hprog⟩ := h
  have hc := List.mem_of_getElem? hi
  have hsaid := (hsound.obeys c hc).standsAt hprog
  rw [hreq] at hsaid
  obtain ⟨row, hrow, -, -, hu⟩ := hsaid u rfl
  obtain ⟨hmem, hname, hemail⟩ := hsound.told c hc _ hrow
  exact ⟨row, hmem, hu, hname, hemail⟩

/-- A user that is found is in the table, under the id that was asked for. -/
theorem Answered.found (hsound : users.Sound s) {i : Nat} {id : String} {u : UserResponse}
    (h : Answered s i (.getUser id) (.ok u)) :
    ∃ row ∈ s.data.rows, u = row.response ∧ row.id = id := by
  obtain ⟨c, hi, hreq, hprog⟩ := h
  have hc := List.mem_of_getElem? hi
  have hsaid := (hsound.obeys c hc).standsAt hprog
  rw [hreq] at hsaid
  rcases hsaid with herr | ⟨-, herr⟩ | ⟨found, hfound, hreply⟩
  · cases herr
  · cases herr
  · cases found with
    | none => cases hreply
    | some row =>
      obtain ⟨hmem, hid⟩ := hsound.told c hc _ hfound
      exact ⟨row, hmem, Except.ok.inj hreply, hid⟩

/-- Rows of one id are one row. -/
theorem Users.Valid.row_inj (h : d.Valid) {row row' : UserRow} (hrow : row ∈ d.rows)
    (hrow' : row' ∈ d.rows) (hid : row.id = row'.id) : row = row' :=
  List.inj_on_of_nodup_map h.keyed hrow hrow' hid

/-- What a later lookup of a row is answered. -/
theorem Answered.later (hsound : users.Sound s) (hrun : Runs s s') {row : UserRow}
    (hrow : row ∈ s.data.rows) {j : Nat} (hlate : s.calls.length ≤ j) {reply : Reply}
    (h : Answered s' j (.getUser row.id) reply) :
    reply = .ok row.response ∨ reply = .error ⟨.internal, "internal error"⟩ := by
  obtain ⟨c, hj, hreq, hprog⟩ := h
  have hsound' := (users.sound_runs hsound hrun).1
  have hsaid := (hsound'.obeys c (List.mem_of_getElem? hj)).standsAt hprog
  rw [hreq] at hsaid
  rcases hsaid with herr | ⟨hblank, -⟩ | ⟨found, hfound, hreply⟩
  · exact Or.inr herr
  · -- an id that is in the table is not blank
    have hstored : StoredId row.id := (hsound.inv.rows row hrow).1
    have hnot := Gateway.not_blank (hstored.symm ▸ Option.some_ne_none row.id)
    rw [hblank] at hnot
    cases hnot
  · -- the row was there when the statement was executed
    obtain ⟨m, d, hm, hserve⟩ := hrun.given_after hlate hj hfound
    have hsound₁ := (users.sound_runs hsound hm).1
    have hgrows : s.data.Grows m.data := (users.sound_runs hsound hm).2
    cases hserve with
    | selected hcatch =>
      obtain ⟨hvalid, hmore⟩ := hcatch.valid hsound₁.inv
      have hthere := hmore.subset (hgrows.subset hrow)
      rw [hvalid.find hthere] at hreply
      exact Or.inl hreply

/-- An `INSERT` that has answered with a row of this id. -/
def Inserts (op : UserOp) (r : UserRes op) (id : String) : Prop :=
  match op, r with
  | .insert .., .ok row => row.id = id
  | _, _ => False

/-- No two calls have inserted one id. -/
theorem insertedOnce_runs (hrun : Runs State.init s) : Protocol.MarkedOnce Inserts s := by
  refine users.markedOnce_runs (users.sound_start valid_init) (fun i j c c' x hi => nomatch hi) ?_ hrun
  intro q L o k d r d' x hd hsaid htold hserve hmark o' r' htells hmark'
  cases hserve with
  | inserted hcatch hfresh =>
    obtain rfl : _ = x := hmark
    cases o' with
    | selectById id => exact hmark'
    | insert name email =>
      cases r' with
      | error err => exact hmark'
      | ok row =>
        -- a second INSERT of the id would find the first one's row
        exact hfresh.2 row ((hcatch.valid hd).2.subset htells.1) hmark'
  | _ => exact hmark

/-- A call that has been answered stays so. -/
theorem Answered.kept {i : Nat} {q : Request} {reply : Reply} (h : Answered s i q reply)
    (hrun : Runs s s') : Answered s' i q reply := by
  induction hrun with
  | refl => exact h
  | tail hrun₁ hstep ih =>
    obtain ⟨ev, hev⟩ := hstep
    obtain ⟨c, hi, hreq, hprog⟩ := ih
    cases hev with
    | call q => exact ⟨c, List.getElem?_append_left (List.getElem?_eq_some_iff.mp hi).1 ▸ hi, hreq, hprog⟩
    | serve j hj hp hd =>
      -- a call that has been answered is not served again
      have hij : j ≠ i := by
        rintro rfl
        cases hj.symm.trans hi
        rw [hp] at hprog
        cases hprog
      refine ⟨c, ?_, hreq, hprog⟩
      rw [List.getElem?_set_ne hij]
      exact hi

/-- Whoever is told of a new user has inserted it. -/
theorem Answered.inserted (hsound : users.Sound s) {i : Nat} {name email : String} {u : UserResponse}
    (h : Answered s i (.createUser name email) (.ok u)) :
    ∃ c, s.calls[i]? = some c ∧ Protocol.Marked Inserts c u.id := by
  obtain ⟨c, hi, hreq, hprog⟩ := h
  have hsaid := (hsound.obeys c (List.mem_of_getElem? hi)).standsAt hprog
  rw [hreq] at hsaid
  obtain ⟨row, hrow, -, -, rfl⟩ := hsaid u rfl
  exact ⟨c, hi, _, hrow, rfl⟩

/-- **A user reads back as it was reported**, over any number of calls, with statements that fail or
    take effect late: what `CreateUser` answers is what was asked for without the blanks around it,
    under an id that no other call is ever answered; and whoever looks it up from then on is answered
    it, or that something went wrong. -/
theorem user_reads_back (hrun : Runs State.init s) (hrun' : Runs s s') {i : Nat}
    {name email : String} {u : UserResponse}
    (h : Answered s i (.createUser name email) (.ok u)) :
    (u.name = trimSpace name ∧ u.email = trimSpace email ∧ Trimmed u.name ∧ Trimmed u.email ∧
      StoredId u.id) ∧
    (∀ j reply, s.calls.length ≤ j → Answered s' j (.getUser u.id) reply →
      reply = .ok u ∨ reply = .error ⟨.internal, "internal error"⟩) ∧
    ∀ j name' email' u', Answered s' j (.createUser name' email') (.ok u') → u'.id = u.id → j = i := by
  have hsound := sound_runs hrun
  have hsound' := sound_runs (hrun.trans hrun')
  obtain ⟨row, hrow, rfl, hname, hemail⟩ := h.created hsound
  obtain ⟨hstored, hname', hemail'⟩ := hsound.inv.rows row hrow
  refine ⟨⟨hname, hemail, hname', hemail', hstored⟩, fun j reply hlate h' => ?_, ?_⟩
  · exact h'.later hsound hrun' hrow hlate
  · intro j name' email' u' h' hid
    -- both calls would have inserted the same id
    obtain ⟨c, hi, hmark⟩ := (h.kept hrun').inserted hsound'
    obtain ⟨c', hj, hmark'⟩ := h'.inserted hsound'
    rw [hid] at hmark'
    exact insertedOnce_runs (hrun.trans hrun') j i c' c _ hj hi hmark' hmark

/-- **Nobody is found who was not asked for**: a user that `GetUser` answers has the id that was looked
    up, and the name and the address of a `CreateUser`, whatever that one was answered; and every two
    answers about one id are the same. -/
theorem found_users (hrun : Runs State.init s) {i : Nat} {id : String} {u : UserResponse}
    (h : Answered s i (.getUser id) (.ok u)) :
    u.id = id ∧ Trimmed u.name ∧ Trimmed u.email ∧ Requested s u.name u.email ∧
    ∀ s' j u', Runs s s' → (Answered s' j (.getUser id) (.ok u') ∨
      ∃ name email, Answered s' j (.createUser name email) (.ok u') ∧ u'.id = id) → u' = u := by
  have hsound := sound_runs hrun
  obtain ⟨row, hrow, rfl, rfl⟩ := h.found hsound
  obtain ⟨-, hname, hemail⟩ := hsound.inv.rows row hrow
  refine ⟨rfl, hname, hemail, (sourced_runs hrun).rows row hrow, fun s' j u' hrun' h' => ?_⟩
  obtain ⟨hsound', hgrows⟩ := users.sound_runs hsound hrun'
  have hthere : row ∈ s'.data.rows := hgrows.subset hrow
  -- whoever sees the id sees the same row
  rcases h' with hget | ⟨name, email, hcreate, hid⟩
  · obtain ⟨row', hrow', rfl, hid⟩ := hget.found hsound'
    rw [hsound'.inv.row_inj hrow' hthere hid]
  · obtain ⟨row', hrow', rfl, -, -⟩ := hcreate.created hsound'
    rw [hsound'.inv.row_inj hrow' hthere hid]

/-! ## Calls that nothing disturbs -/

/-- A call is made and its one statement is answered. -/
theorem runs_call {q : Request} {op : UserOp} {f : UserRes op → Reply} {r : UserRes op}
    (hprogram : program q = .await op fun r => .ret (f r)) (hserve : Serve op s.data r d) :
    ∃ s', Runs s s' ∧ Answered s' s.calls.length q (f r) ∧ s'.data = d ∧
      s'.calls.length = s.calls.length + 1 := by
  let c : Call UserOp UserRes (fun _ : Request => Reply) := ⟨q, Thread.start (program q)⟩
  have hcall : Step program Serve s (.call q) { s with calls := s.calls ++ [c] } := .call q
  have hlast : (s.calls ++ [c])[s.calls.length]? = some c := List.getElem?_concat_length
  have hserved := @Step.serve UserOp UserRes Request (fun _ => Reply) Users program Serve
    { s with calls := s.calls ++ [c] } c op _ r d s.calls.length hlast hprogram hserve
  refine ⟨_, .cons hcall (.cons hserved .refl),
    ⟨⟨q, c.thread.answer op (fun r => .ret (f r)) r⟩, ?_, rfl, rfl⟩, rfl, ?_⟩
  · exact List.getElem?_set_self (by simp)
  · simp

/-- A `CreateUser` that is run at once. -/
theorem runs_createUser {name email id : String} (hname : trimSpace name ≠ "")
    (hemail : trimSpace email ≠ "") (hfresh : s.data.Fresh id) :
    ∃ s', Runs s s' ∧
      Answered s' s.calls.length (.createUser name email) (.ok ⟨id, trimSpace name, trimSpace email⟩) ∧
      s'.data = ⟨s.data.rows ++ [⟨id, trimSpace name, trimSpace email⟩], s.data.late⟩ ∧
      s'.calls.length = s.calls.length + 1 := by
  have hprogram : program (.createUser name email) = .await (.insert (trimSpace name) (trimSpace email))
      fun r => .ret (reply (r.mapError .other)) := by
    show UserHandler.answer (UserService.createUser name email) = _
    unfold UserService.createUser
    rw [if_neg hname, if_neg hemail, answer_create]
  exact runs_call hprogram (.inserted .refl hfresh)

/-- A `GetUser` that is run at once. -/
theorem runs_getUser {id : String} (hid : trimSpace id ≠ "") :
    ∃ s', Runs s s' ∧
      Answered s' s.calls.length (.getUser id)
        (reply (User.getByID (.ok (s.data.rows.find? fun row => decide (row.id = id))))) := by
  have hprogram : program (.getUser id) = .await (.selectById id)
      fun r => .ret (reply (User.getByID r)) := by
    show UserHandler.answer (UserService.getUser id) = _
    unfold UserService.getUser
    rw [if_neg hid, answer_getByID]
  obtain ⟨s', hrun, hanswered, -, -⟩ := runs_call hprogram (@Serve.selected s.data s.data id .refl)
  exact ⟨s', hrun, hanswered⟩

end Calls

/-- Ann is created, and looked up. -/
theorem runs_ann : ∃ s s', Runs State.init s ∧ Runs s s' ∧ s.calls.length = 1 ∧
    Answered s 0 (.createUser " Ann " "ann@example.org")
      (.ok ⟨"6f0c8b1e-3d52-4b7a-9c41-0a2f5e7d9b36", "Ann", "ann@example.org"⟩) ∧
    Answered s' 1 (.getUser "6f0c8b1e-3d52-4b7a-9c41-0a2f5e7d9b36")
      (.ok ⟨"6f0c8b1e-3d52-4b7a-9c41-0a2f5e7d9b36", "Ann", "ann@example.org"⟩) := by
  have hname : trimSpace " Ann " = "Ann" := by decide +kernel
  have hemail : trimSpace "ann@example.org" = "ann@example.org" := by decide +kernel
  have hid : trimSpace "6f0c8b1e-3d52-4b7a-9c41-0a2f5e7d9b36" ≠ "" := by decide +kernel
  have hfresh : Users.Fresh ⟨[], []⟩ "6f0c8b1e-3d52-4b7a-9c41-0a2f5e7d9b36" :=
    ⟨by decide +kernel, fun _ h => nomatch h⟩
  obtain ⟨s, hrun, hcreated, hdata, hlength⟩ := @runs_createUser State.init " Ann " "ann@example.org" _
    (by rw [hname]; decide) (by rw [hemail]; decide) hfresh
  obtain ⟨s', hrun', hfound⟩ := @runs_getUser s _ hid
  rw [hname, hemail] at hcreated hdata
  rw [hdata, hlength] at hfound
  exact ⟨s, s', hrun, hrun', hlength, hcreated, hfound⟩

/-- She reads back as she was reported. -/
theorem user_reads_back_ann : ∃ s s' u, Answered s 0 (.createUser " Ann " "ann@example.org") (.ok u) ∧
    Answered s' 1 (.getUser u.id) (.ok u) ∧ u.name = trimSpace " Ann " := by
  obtain ⟨s, s', hrun, hrun', -, hcreated, hfound⟩ := runs_ann
  exact ⟨s, s', _, hcreated, hfound, (user_reads_back hrun hrun' hcreated).1.1⟩

/-- Somebody has asked for her. -/
theorem found_users_ann : ∃ s u, Answered s 1 (.getUser u.id) (.ok u) ∧ Requested s u.name u.email := by
  obtain ⟨s, s', hrun, hrun', -, -, hfound⟩ := runs_ann
  exact ⟨s', _, hfound, (found_users (hrun.trans hrun') hfound).2.2.2.1⟩

end Microservices.User
