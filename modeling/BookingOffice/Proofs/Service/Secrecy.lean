import BookingOffice.Proofs.Http.Gate
import BookingOffice.Service.Serve

/-!
Secrets. The service is given two, the token for its clients and the password for the database. They
are read from variables of their own, so that no other setting and no fault of one depends on what
they are, and they are left out of the diagnostics. While the service runs, clients learn no more of
the token than whether it is the one that they have presented.

* `Environment.DifferInSecrets`: what it means that environments differ in secrets only;
* `ServerSettings.map_masked_ofEnvironment`, `DatabaseSettings.map_masked_ofEnvironment`: the
  settings that are read from them differ in secrets only;
* `Service.command_eq_of_differInSecrets`: so the command does the same;
* `Http.session`: the answers to a run of requests;
* `Http.respond_eq_of_not_carries`, `Http.session_eq_of_not_carries`: what one request and what a
  run of requests tells of the token;
* `Service.Secrecy`: what it means that secrets do not leak;
* `Service.secrecy`: they do not.
-/

namespace BookingOffice

/-! ### Variables -/

namespace Environment

variable {env env' : Environment} {start start' suffix suffix' : String}

/-- Names of variables with different last letters are different, whatever they start with. -/
lemma nameOf_ne (h : ('_' :: suffix.toList).getLast? ≠ ('_' :: suffix'.toList).getLast?) :
    nameOf start suffix ≠ nameOf start' suffix' := by
  have hlast (start suffix : String) :
      (nameOf start suffix).toList.getLast? = ('_' :: suffix.toList).getLast? := by
    have hname : (nameOf start suffix).toList = start.toList ++ '_' :: suffix.toList := by
      change (start ++ "_" ++ suffix).toList = _
      rw [String.toList_append, String.toList_append, List.append_assoc]
      rfl
    rw [hname, List.getLast?_append, List.getLast?_cons, Option.some_or]
  intro heq
  rw [← hlast start, ← hlast start', heq] at h
  exact h rfl

variable {α : Type} {type : String → Except TypeFault α}

lemma optional_congr (h : env.value? (nameOf start suffix) = env'.value? (nameOf start suffix)) :
    env.optional type start suffix = env'.optional type start suffix := by
  simp only [optional, h]

lemma required_congr (h : env.value? (nameOf start suffix) = env'.value? (nameOf start suffix)) :
    env.required type start suffix = env'.required type start suffix := by
  simp only [required, optional_congr h]

/-- Whether a variable is set to a text. -/
def Holds (env : Environment) (name s : String) : Prop :=
  (env.value? name).bind Text.Utf8.decode? = some s

instance (env : Environment) (name s : String) : Decidable (env.Holds name s) :=
  inferInstanceAs (Decidable (_ = _))

lemma Holds.optional_eq {s : String} (h : env.Holds (nameOf start suffix) s) :
    env.optional text start suffix = .ok (some s) := by
  obtain ⟨bytes, hbytes, hs⟩ := Option.bind_eq_some_iff.1 h
  simp only [optional, hbytes, hs]
  rfl

lemma Holds.required_eq {s : String} (h : env.Holds (nameOf start suffix) s) :
    env.required text start suffix = .ok s := by
  simp only [required, h.optional_eq]

/-- Whether environments differ in two variables only: the token of a server, whose variables start
with one text, and the password of a database, whose variables start with another. Both are set to
texts in both environments, and the token is never empty. -/
structure DifferInSecrets (env env' : Environment) (server database : String) : Prop where
  others : ∀ name, name ≠ nameOf server "API_TOKEN" → name ≠ nameOf database "PASSWORD" →
    env.value? name = env'.value? name
  token : ∀ e ∈ [env, env'], ∃ s, s ≠ "" ∧ e.Holds (nameOf server "API_TOKEN") s
  password : ∀ e ∈ [env, env'], ∃ s, e.Holds (nameOf database "PASSWORD") s

/-- A variable whose last letter is that of neither secret is the same in both environments. -/
lemma DifferInSecrets.value?_eq {server database : String}
    (h : env.DifferInSecrets env' server database) (suffix : String)
    (hsuffix : ('_' :: suffix.toList).getLast? ∉ [some 'N', some 'D']) :
    env.value? (nameOf start suffix) = env'.value? (nameOf start suffix) := by
  refine h.others _ (nameOf_ne fun heq => ?_) (nameOf_ne fun heq => ?_)
  · exact hsuffix (heq ▸ List.mem_cons_self)
  · exact hsuffix (heq ▸ List.mem_cons_of_mem _ List.mem_cons_self)

end Environment

/-! ### Settings -/

variable {env env' : Environment} {start start' secret : String}

namespace ServerSettings

/-- The settings of the server but for the token, from the other variables. -/
def ofOthers (env : Environment) (start : String) : Except String ServerSettings := do
  let port ← (env.optional Environment.nat16 start "PORT").mapError (·.message)
  let bindAll ← (env.optional Environment.bool start "BIND_ALL").mapError (·.message)
  return { port := port.getD 3000, bindAll := bindAll.getD false }

/-- The settings with a token. -/
def withToken (token : String) (s : ServerSettings) : ServerSettings :=
  { s with apiToken := some token }

/-- A token comes to the settings as it is, and makes no difference to the others. -/
lemma ofEnvironment_eq (h : env.Holds (Environment.nameOf start "API_TOKEN") secret)
    (hsecret : secret ≠ "") :
    ofEnvironment env start = withToken secret <$> ofOthers env start := by
  have hne : some secret ≠ some "" := fun heq => hsecret (Option.some.inj heq)
  have htoken : (env.optional Environment.text start "API_TOKEN").mapError (·.message) =
      pure (some secret) := by rw [h.optional_eq]; rfl
  simp only [ofEnvironment, ofOthers, htoken, pure_bind, if_neg hne, map_bind, map_pure]
  rfl

lemma ofOthers_congr (h : env.DifferInSecrets env' start start') :
    ofOthers env start = ofOthers env' start := by
  rw [ofOthers, ofOthers, Environment.optional_congr (h.value?_eq "PORT" (by decide)),
    Environment.optional_congr (h.value?_eq "BIND_ALL" (by decide))]

end ServerSettings

namespace DatabaseSettings

/-- The settings of the database but for the password, from the other variables. -/
def ofOthers (env : Environment) (start : String) : Except Environment.Fault DatabaseSettings := do
  let host ← env.required Environment.text start "HOST"
  let port ← env.required Environment.nat16 start "PORT"
  let database ← env.required Environment.text start "DATABASE"
  let username ← env.required Environment.text start "USERNAME"
  let minConnections ← env.optional Environment.nat32 start "MIN_CONNECTIONS"
  let maxConnections ← env.optional Environment.nat32 start "MAX_CONNECTIONS"
  let maxRetries ← env.optional Environment.nat16 start "MAX_RETRIES"
  return {
    host, port, database, username, password := "", minConnections, maxConnections,
    maxRetries := maxRetries.getD 60 }

/-- The settings with a password. -/
def withPassword (password : String) (s : DatabaseSettings) : DatabaseSettings :=
  { s with password := password }

/-- A password comes to the settings as it is, and makes no difference to the others. -/
lemma ofEnvironment_eq (h : env.Holds (Environment.nameOf start "PASSWORD") secret) :
    ofEnvironment env start = withPassword secret <$> ofOthers env start := by
  have hpassword : env.required Environment.text start "PASSWORD" = pure secret := h.required_eq
  simp only [ofEnvironment, ofOthers, hpassword, pure_bind, map_bind, map_pure]
  rfl

lemma ofOthers_congr (h : env.DifferInSecrets env' start' start) :
    ofOthers env start = ofOthers env' start := by
  rw [ofOthers, ofOthers, Environment.required_congr (h.value?_eq "HOST" (by decide)),
    Environment.required_congr (h.value?_eq "PORT" (by decide)),
    Environment.required_congr (h.value?_eq "DATABASE" (by decide)),
    Environment.required_congr (h.value?_eq "USERNAME" (by decide)),
    Environment.optional_congr (h.value?_eq "MIN_CONNECTIONS" (by decide)),
    Environment.optional_congr (h.value?_eq "MAX_CONNECTIONS" (by decide)),
    Environment.optional_congr (h.value?_eq "MAX_RETRIES" (by decide))]

end DatabaseSettings

namespace Environment.DifferInSecrets

/-- Settings of servers that are read from the environments differ in their tokens only, and faults
do not differ. -/
lemma exists_server (h : env.DifferInSecrets env' start start') :
    ∃ rest token token',
      ServerSettings.ofEnvironment env start = ServerSettings.withToken token <$> rest ∧
      ServerSettings.ofEnvironment env' start = ServerSettings.withToken token' <$> rest := by
  obtain ⟨token, hne, htoken⟩ := h.token env List.mem_cons_self
  obtain ⟨token', hne', htoken'⟩ := h.token env' (List.mem_cons_of_mem _ List.mem_cons_self)
  refine ⟨_, token, token', ServerSettings.ofEnvironment_eq htoken hne, ?_⟩
  rw [ServerSettings.ofEnvironment_eq htoken' hne', ServerSettings.ofOthers_congr h]

/-- Settings of databases that are read from the environments differ in their passwords only, and
faults do not differ. -/
lemma exists_database (h : env.DifferInSecrets env' start start') :
    ∃ rest password password',
      DatabaseSettings.ofEnvironment env start' =
        DatabaseSettings.withPassword password <$> rest ∧
      DatabaseSettings.ofEnvironment env' start' =
        DatabaseSettings.withPassword password' <$> rest := by
  obtain ⟨password, hpassword⟩ := h.password env List.mem_cons_self
  obtain ⟨password', hpassword'⟩ := h.password env' (List.mem_cons_of_mem _ List.mem_cons_self)
  refine ⟨_, password, password', DatabaseSettings.ofEnvironment_eq hpassword, ?_⟩
  rw [DatabaseSettings.ofEnvironment_eq hpassword', DatabaseSettings.ofOthers_congr h]

end Environment.DifferInSecrets

/-! ### The command -/

namespace Service

/-- The command does the same in environments that differ in secrets only, if connecting comes to
the same whatever the password. -/
theorem command_eq_of_differInSecrets (h : env.DifferInSecrets env' "TRANSIT" "PGSQL_PROD")
    {connect : DatabaseSettings → Except Incident Office}
    (hconnect : ∀ password settings, connect (settings.withPassword password) = connect settings)
    (listening : Except ListenFault Unit) :
    command env connect listening = command env' connect listening := by
  obtain ⟨server, token, token', hserver, hserver'⟩ := h.exists_server
  obtain ⟨database, password, password', hdatabase, hdatabase'⟩ := h.exists_database
  simp only [command, hserver, hserver', hdatabase, hdatabase']
  cases server with
  | error message => rfl
  | ok server =>
    cases database with
    | error fault => rfl
    | ok database =>
      have hsame : connect (database.withPassword password) =
          connect (database.withPassword password') := by rw [hconnect, hconnect]
      simp only [Functor.map, Except.map, hsame]
      rfl

end Service

/-! ### Requests -/

namespace Http

variable {surroundings : Surroundings} {token token' : String} {request : Request}

/-- Why a request is not let through does not depend on the token, as long as it carries neither. -/
lemma rejection?_eq_of_not_carries (h : ¬ request.headers.Carries token)
    (h' : ¬ request.headers.Carries token') :
    rejection? (some token) request = rejection? (some token') request := by
  rw [← rejection?_eq_none_iff] at h h'
  rw [rejection?, Option.bind_some] at h h' ⊢
  rw [rejection?, Option.bind_some]
  cases hbearer : request.headers.bearer with
  | error fault => rfl
  | ok given =>
    simp only [hbearer, ite_eq_left_iff, reduceCtorEq, imp_false, not_not] at h h' ⊢
    rw [if_neg h, if_neg h']

/-- A request that carries neither of two tokens cannot tell which of them the office asks for. -/
lemma respond_eq_of_not_carries (h : ¬ request.headers.Carries token)
    (h' : ¬ request.headers.Carries token') (office : Office) :
    respond surroundings (some token) request office =
      respond surroundings (some token') request office := by
  simp only [respond, rejection?_eq_of_not_carries h h']

/-- The answers to requests, one after another, and the office after them. -/
def session (surroundings : Surroundings) (token : Option String) :
    List Request → Office → List Answer × Office
  | [], office => ([], office)
  | request :: requests, office =>
    let (answer, office) := respond surroundings token request office
    let (answers, office) := session surroundings token requests office
    (answer :: answers, office)

/-- Neither can a run of requests none of which carries one of them. -/
lemma session_eq_of_not_carries {requests : List Request}
    (h : ∀ request ∈ requests,
      ¬ request.headers.Carries token ∧ ¬ request.headers.Carries token') (office : Office) :
    session surroundings (some token) requests office =
      session surroundings (some token') requests office := by
  induction requests generalizing office with
  | nil => rfl
  | cons request requests ih =>
    obtain ⟨hfirst, hrest⟩ := List.forall_mem_cons.1 h
    simp only [session, respond_eq_of_not_carries hfirst.1 hfirst.2, ih hrest]

end Http

/-! ### Secrets -/

namespace Service

/-- What it means that secrets do not leak. -/
structure Secrecy (surroundings : Surroundings) : Prop where
  /-- The settings of a server are read from environments that differ in secrets only with the same
  diagnostics, or the same message says why they are not. -/
  server : ∀ {env env' : Environment} {start start' : String},
    env.DifferInSecrets env' start start' →
    (ServerSettings.ofEnvironment env start).map (·.debugText) =
      (ServerSettings.ofEnvironment env' start).map (·.debugText)
  /-- So are the settings of a database. -/
  database : ∀ {env env' : Environment} {start start' : String},
    env.DifferInSecrets env' start start' →
    (DatabaseSettings.ofEnvironment env start').map (·.debugText) =
      (DatabaseSettings.ofEnvironment env' start').map (·.debugText)
  /-- The command does the same in such environments, if connecting comes to the same whatever the
  password. -/
  command : ∀ {env env' : Environment}, env.DifferInSecrets env' "TRANSIT" "PGSQL_PROD" →
    ∀ connect : DatabaseSettings → Except Incident Office,
      (∀ password settings, connect (settings.withPassword password) = connect settings) →
      ∀ listening, Service.command env connect listening = Service.command env' connect listening
  /-- Requests that carry neither of two tokens are answered by an office that asks for the one as
  by an office that asks for the other, which log the same and come to the same. -/
  requests : ∀ (token token' : String) (office : Office) (requests : List Http.Request),
    (∀ request ∈ requests,
      ¬ request.headers.Carries token ∧ ¬ request.headers.Carries token') →
    Http.session surroundings (some token) requests office =
      Http.session surroundings (some token') requests office

/-- Secrets do not leak. -/
theorem secrecy (surroundings : Surroundings) : Secrecy surroundings where
  server h := by
    obtain ⟨rest, token, token', hserver, hserver'⟩ := h.exists_server
    rw [hserver, hserver']
    cases rest <;> rfl
  database h := by
    obtain ⟨rest, password, password', hdatabase, hdatabase'⟩ := h.exists_database
    rw [hdatabase, hdatabase']
    cases rest <;> rfl
  command h _ hconnect listening := command_eq_of_differInSecrets h hconnect listening
  requests _ _ office _ h := Http.session_eq_of_not_carries h office

/-- Two environments with other tokens and other passwords, one of which is empty. The port of the
database is none, and that is all that is said in either. Clients without a token, or with that of
neither, are told the same by both offices, and one with the token of the first is not. -/
theorem secrecy_two_tokens :
    let setUp (token password : String) : Environment :=
      [("TRANSIT_API_TOKEN", token), ("TRANSIT_PORT", "8080"), ("PGSQL_PROD_HOST", "db"),
        ("PGSQL_PROD_PORT", "http"), ("PGSQL_PROD_DATABASE", "office"),
        ("PGSQL_PROD_USERNAME", "clerk"), ("PGSQL_PROD_PASSWORD", password)].map
          fun v => (v.1, Text.Utf8.encode v.2)
    let env := setUp "open sesame" "hunter2"
    let env' := setUp "shut sesame" ""
    let asking (path : String) (values : List String) : Http.Request :=
      { method := "GET"
        target := path
        headers := values.map fun value => ⟨"Authorization", Text.Utf8.encode value⟩
        body := [] }
    let requests := [asking "/health" [], asking "/api/v1/external/countries" [],
      asking "/api/v1/external/countries" ["Bearer sesame"]]
    let office := Office.ofLayout .office
    let statuses (token : String) (requests : List Http.Request) :=
      (Http.session .counting (some token) requests office).1.map (·.response.map (·.status))
    env.DifferInSecrets env' "TRANSIT" "PGSQL_PROD" ∧
      (ServerSettings.ofEnvironment env "TRANSIT").map (·.debugText) =
        (ServerSettings.ofEnvironment env' "TRANSIT").map (·.debugText) ∧
      ((ServerSettings.ofEnvironment env "TRANSIT").map (·.debugText)).toOption =
        some "Config \x7b port: 8080, bind_all: false \x7d" ∧
      (DatabaseSettings.ofEnvironment env "PGSQL_PROD").map (·.debugText) =
        (DatabaseSettings.ofEnvironment env' "PGSQL_PROD").map (·.debugText) ∧
      (DatabaseSettings.ofEnvironment env "PGSQL_PROD").toOption = none ∧
      Http.session .counting (some "open sesame") requests office =
        Http.session .counting (some "shut sesame") requests office ∧
      statuses "open sesame" requests = [some 200, some 401, some 401] ∧
      statuses "open sesame" [asking "/api/v1/external/countries" ["Bearer open sesame"]] ≠
        statuses "shut sesame" [asking "/api/v1/external/countries" ["Bearer open sesame"]] := by
  intro setUp env env' asking requests office statuses
  have hsecrecy : Secrecy .counting := secrecy .counting
  have hdiffer : env.DifferInSecrets env' "TRANSIT" "PGSQL_PROD" := by
    refine ⟨fun name htoken hpassword => ?_, ?_, ?_⟩
    · have htoken : ("TRANSIT_API_TOKEN" == name) = false := beq_false_of_ne htoken.symm
      have hpassword : ("PGSQL_PROD_PASSWORD" == name) = false := beq_false_of_ne hpassword.symm
      simp only [env, env', setUp, Environment.value?, List.map_cons, List.map_nil,
        List.find?_cons, htoken, hpassword]
    · simp only [List.forall_mem_cons]
      exact ⟨⟨"open sesame", by decide, by decide +kernel⟩,
        ⟨"shut sesame", by decide, by decide +kernel⟩, nofun⟩
    · simp only [List.forall_mem_cons]
      exact ⟨⟨"hunter2", by decide +kernel⟩, ⟨"", by decide +kernel⟩, nofun⟩
  have hrequests : ∀ request ∈ requests, ¬ request.headers.Carries "open sesame" ∧
      ¬ request.headers.Carries "shut sesame" := by
    have hvalues : ∀ request ∈ requests, ∀ token ∈ ["open sesame", "shut sesame"],
        request.headers.values "Authorization" ≠
          [Text.Utf8.encode "Bearer " ++ Text.Utf8.encode token] := by
      decide +kernel
    intro request hrequest
    exact ⟨fun h => hvalues request hrequest _ (by simp) h.value,
      fun h => hvalues request hrequest _ (by simp) h.value⟩
  exact ⟨hdiffer, hsecrecy.server hdiffer, by decide +kernel, hsecrecy.database hdiffer,
    by decide +kernel, hsecrecy.requests _ _ office requests hrequests, by decide +kernel,
    by decide +kernel⟩

end Service

end BookingOffice
