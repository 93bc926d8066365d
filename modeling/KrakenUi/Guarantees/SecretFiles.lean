import KrakenUi.Guarantees.Secrets
import KrakenUi.Secrets

namespace KrakenUi
namespace Secrets

open Text Base64 RuleManagement

/-!
# Files with secrets

What the generator writes into the mount is what the rule client signs with,
unless a variable names another file.  The generator gives the group access to
its files, so a variable that names one of them is refused: a file named by a
variable has to belong to its owner alone, whatever secret or key it is for.
-/

section Loading

variable {host : Host} {files : Files} {path : String} {file : StoredFile}

/-- A named file that others may read ends the search. -/
theorem classify_loose (found : files.lookup path = some file)
    (loose : Config.fileHasLoosePermissions file.metadata = true) :
    classifySecretFile files path .strict = .rejected := by
  unfold classifySecretFile
  rw [found]
  dsimp only
  rw [if_pos loose]

theorem loadSecret_loose {name : String} (named : explicitPath host name = some path)
    (found : host.files.lookup path = some file)
    (loose : Config.fileHasLoosePermissions file.metadata = true) :
    loadSecret host name = none := by
  unfold loadSecret loadSecretFromSources
  rw [named]
  dsimp only
  rw [classify_loose found loose]

/-- The mount is read whatever its permissions are. -/
theorem classify_warnOnly {secret : String} (found : files.lookup path = some file)
    (usable : nonEmptySecret file.text = some secret) :
    classifySecretFile files path .warnOnly = .loaded secret := by
  have readable : readSecret file = .loaded secret := by
    unfold readSecret
    rw [usable]
  unfold classifySecretFile
  rw [found]
  dsimp only
  split
  · exact readable
  · exact readable

/-- Nothing usable is under the path that a variable names, if one does. -/
def Unnamed (host : Host) (name : String) : Prop :=
  forall path, explicitPath host name = some path ->
    classifySecretFile host.files path .strict = .absent

theorem loadSecret_mount {name secret : String} (unnamed : Unnamed host name)
    (found : host.files.lookup (join secretsDir name) = some file)
    (usable : nonEmptySecret file.text = some secret) : loadSecret host name = some secret := by
  have fallback : loadFallback host.files (join secretsDir name) (host.environment name) =
      some secret := by
    unfold loadFallback
    rw [classify_warnOnly found usable]
  unfold loadSecret loadSecretFromSources
  cases named : explicitPath host name with
  | none => exact fallback
  | some path =>
      dsimp only
      rw [unnamed path named]
      exact fallback

end Loading

/-! ## What the generator leaves -/

section Generating

variable {directory name value : String} {secrets : List (String × String)}
  {before middle after : Files}

theorem toList_generateSecret (bytes : ByteArray) :
    (generateSecret bytes).toList = urlSafeNoPad.spell bytes.data.toList :=
  String.toList_ofList

theorem encodeBytes_ne_nil {bytes : List UInt8} (some' : bytes ≠ []) : encodeBytes bytes ≠ [] := by
  match bytes with
  | [] => exact absurd rfl some'
  | [_] => exact List.cons_ne_nil _ _
  | [_, _] => exact List.cons_ne_nil _ _
  | _ :: _ :: _ :: _ => exact List.cons_ne_nil _ _

/-- A generated secret has no whitespace and is not empty. -/
theorem usable_generateSecret {bytes : ByteArray} (long : bytes.size = secretBytes) :
    nonEmptySecret (some (generateSecret bytes)) = some (generateSecret bytes) := by
  have trimmed : trim (generateSecret bytes) = generateSecret bytes := by
    rw [trim, toList_generateSecret, (spell_trimmed _ _).trimChars]
    rfl
  have filled : isEmpty (generateSecret bytes) = false := by
    unfold isEmpty
    rw [toList_generateSecret]
    apply Bool.eq_false_iff.mpr
    intro empty
    have nothing := List.append_eq_nil_iff.mp (List.isEmpty_iff.mp empty)
    apply encodeBytes_ne_nil _ (List.map_eq_nil_iff.mp nothing.1)
    intro none
    have size : bytes.size = 0 := by
      have counted : bytes.data.toList.length = 0 := by rw [none]; rfl
      rwa [Array.length_toList] at counted
    rw [long] at size
    cases size
  unfold nonEmptySecret
  rw [Option.map_some, trimmed, Option.filter_some, filled]
  rfl

/-- Every file of a run that succeeds is open to the group. -/
theorem mode_written (wrote : WritesSecrets directory secrets before after)
    (member : (name, value) ∈ secrets) : Exists fun file =>
      after.lookup (join directory name) = some file ∧ file.metadata.mode = 0o440 := by
  -- A file that has the mode keeps it through the rest of the run.
  have kept : forall {secrets : List (String × String)} {before after : Files} {path : String}
      {place : Nat}, WritesSecrets directory secrets before after ->
      before.place path = some place -> (before.file place).metadata.mode = 0o440 ->
      after.place path = some place ∧ (after.file place).metadata.mode = 0o440 := by
    intro secrets before after path place wrote
    induction wrote with
    | nil files => exact fun here mode => ⟨here, mode⟩
    | cons stores others inductionHypothesis =>
        intro here mode
        apply inductionHypothesis (stores.kept path place here)
        rcases stores.stored with ⟨written, -, -, restricted, elsewhere⟩
        by_cases same : place = written
        · rw [same]
          exact restricted
        · rw [elsewhere place same]
          exact mode
  induction wrote with
  | nil files => cases member
  | cons stores others inductionHypothesis =>
      rcases List.mem_cons.mp member with same | later
      · cases same
        rcases stores.stored with ⟨written, here, -, restricted, -⟩
        rcases kept others here restricted with ⟨there, mode⟩
        refine ⟨_, ?_, mode⟩
        unfold Files.lookup
        rw [there, Option.map_some]
      · exact inductionHypothesis later

/-- Two secrets under paths to different files are both there in the end. -/
theorem text_written {other otherValue : String}
    (wrote : WritesSecrets directory [(name, value), (other, otherValue)] before after)
    (apart : after.place (join directory name) ≠ after.place (join directory other)) :
    (Exists fun file => after.lookup (join directory name) = some file ∧
      file.text = some value) ∧
    Exists fun file => after.lookup (join directory other) = some file ∧
      file.text = some otherValue := by
  cases wrote with
  | @cons _ _ _ _ middle _ first rest =>
      cases rest with
      | cons second done =>
          cases done
          rcases first.stored with ⟨one, here, text, -, -⟩
          rcases second.stored with ⟨two, there, otherText, -, elsewhere⟩
          have still := second.kept _ _ here
          have distinct : one ≠ two := by
            rintro rfl
            exact apart (still.trans there.symm)
          unfold Files.lookup
          rw [still, there]
          refine ⟨⟨_, rfl, ?_⟩, _, rfl, otherText⟩
          rw [elsewhere one distinct]
          exact text

/-- Files are written only where an argument says so. -/
theorem parseArguments_generate {destination directory : Option String}
    {arguments : List String} (asked : parseArguments destination arguments =
      .generate directory) :
    directory = destination ∨ ("--write" ∈ arguments ∧ directory = some secretsDir) ∨
      Exists fun path => directory = some path ∧ "--dir" ∈ arguments ∧ path ∈ arguments := by
  fun_induction parseArguments destination arguments with
  | case1 destination =>
      cases asked
      exact Or.inl rfl
  | case2 destination rest inductionHypothesis =>
      right
      rcases inductionHypothesis asked with same | ⟨-, same⟩ | ⟨path, same, flag, given⟩
      · exact Or.inl ⟨List.mem_cons_self, same⟩
      · exact Or.inl ⟨List.mem_cons_self, same⟩
      · exact Or.inr ⟨path, same, List.mem_cons_of_mem _ flag, List.mem_cons_of_mem _ given⟩
  | case3 => cases asked
  | case4 destination path rest _ inductionHypothesis =>
      right
      rcases inductionHypothesis asked with same | ⟨flag, same⟩ | ⟨later, same, flag, given⟩
      · exact Or.inr ⟨path, same, List.mem_cons_self,
          List.mem_cons_of_mem _ List.mem_cons_self⟩
      · exact Or.inl ⟨List.mem_cons_of_mem _ (List.mem_cons_of_mem _ flag), same⟩
      · exact Or.inr ⟨later, same, List.mem_cons_self,
          List.mem_cons_of_mem _ (List.mem_cons_of_mem _ given)⟩
  | case5 => cases asked
  | case6 => cases asked

theorem loose_of_mode {file : StoredFile} (mode : file.metadata.mode = 0o440) :
    Config.fileHasLoosePermissions file.metadata = true := by
  unfold Config.fileHasLoosePermissions
  rw [mode]
  decide

end Generating

/-- What `with_client` makes of acceptable parts. -/
theorem withClient_ok {engines : List (String -> Option ByteArray)}
    {endpoint clientId accepted secretEven secretOdd : String} {even odd : ByteArray}
    (valid : validateClientId clientId = .ok accepted)
    (decodesEven : decodeSecret engines secretEven "RORSCHACH_SECRET_EVEN" = .ok even)
    (decodesOdd : decodeSecret engines secretOdd "RORSCHACH_SECRET_ODD" = .ok odd) :
    Exists fun service =>
      RuleManagementService.withClient engines endpoint clientId secretEven secretOdd =
        .ok service ∧
      service.secretEven = even ∧ service.secretOdd = odd ∧ service.clientId = accepted := by
  unfold RuleManagementService.withClient
  split
  · rename_i message failed
    cases valid.symm.trans failed
  · rename_i name validated
    cases valid.symm.trans validated
    split
    · rename_i message failed
      cases decodesEven.symm.trans failed
    · rename_i first readEven
      cases decodesEven.symm.trans readEven
      split
      · rename_i message failed
        cases decodesOdd.symm.trans failed
      · rename_i second readOdd
        cases decodesOdd.symm.trans readOdd
        exact ⟨_, rfl, rfl, rfl, rfl⟩

/-! ## The results -/

/-- The pair that the generator has written into the mount is the pair that the
rule client uses, unless variables name other files. -/
theorem generated_secrets_are_served {readers : Engine -> String -> Option ByteArray}
    (strict : forall engine, Engine.Strict engine (readers engine)) {even odd : ByteArray}
    (evenSize : even.size = secretBytes) (oddSize : odd.size = secretBytes) {before : Files}
    {host : Host}
    (wrote : WriteSecretFiles secretsDir [("RORSCHACH_SECRET_EVEN", generateSecret even),
      ("RORSCHACH_SECRET_ODD", generateSecret odd)] before host.files)
    (apart : host.files.place (join secretsDir "RORSCHACH_SECRET_EVEN") ≠
      host.files.place (join secretsDir "RORSCHACH_SECRET_ODD"))
    (unnamed : forall name, name ∈ secretNames -> Unnamed host name) {clientId accepted : String}
    (client : (loadSecret host "RORSCHACH_CLIENT_ID").getD "kraken-ui" = clientId)
    (valid : validateClientId clientId = .ok accepted) (endpoint : String) :
    Exists fun service => buildRuleManagement (tried.map readers) (.ok ()) host (some endpoint) =
      .ok (some service) ∧ service.secretEven = even ∧ service.secretOdd = odd ∧
        service.clientId = accepted := by
  rcases wrote with ⟨made, -, written⟩
  rcases text_written written apart with ⟨⟨one, first, firstText⟩, two, second, secondText⟩
  have loadEven : loadSecret host "RORSCHACH_SECRET_EVEN" = some (generateSecret even) := by
    apply loadSecret_mount (unnamed _ List.mem_cons_self) first
    rw [firstText]
    exact usable_generateSecret evenSize
  have loadOdd : loadSecret host "RORSCHACH_SECRET_ODD" = some (generateSecret odd) := by
    apply loadSecret_mount (unnamed _ (List.mem_cons_of_mem _ List.mem_cons_self)) second
    rw [secondText]
    exact usable_generateSecret oddSize
  have decoded : forall (bytes : ByteArray) (name : String), bytes.size = secretBytes ->
      decodeSecret (tried.map readers) (generateSecret bytes) name = .ok bytes := by
    intro bytes name size
    have surrounded : Surrounded urlSafeNoPad bytes (generateSecret bytes) := by
      refine ⟨[], [], ?_, fun _ impossible => absurd impossible List.not_mem_nil,
        fun _ impossible => absurd impossible List.not_mem_nil⟩
      rw [List.nil_append, List.append_nil]
      exact toList_generateSecret bytes
    unfold decodeSecret
    rw [findSome_surrounded strict List.mem_cons_self surrounded]
    have long : ¬ bytes.size < macKeyBytes := by
      rw [size]
      decide
    exact if_neg long
  rcases @withClient_ok (tried.map readers) endpoint clientId accepted (generateSecret even)
    (generateSecret odd) even odd valid (decoded even _ evenSize) (decoded odd _ oddSize) with
      ⟨service, built, parts⟩
  refine ⟨service, ?_, parts⟩
  unfold buildRuleManagement
  dsimp only
  rw [loadEven, loadOdd, client]
  dsimp only
  rw [Except.bind, built]
  rfl

/-- The same file, but for what it holds if others than its owner may access it.  Only
the mount is read in any case. -/
structure AlikeUnlessLoose (path : String) (one other : StoredFile) : Prop where
  metadata : one.metadata = other.metadata
  tight : Config.fileHasLoosePermissions one.metadata = false -> one.text = other.text
  mount : forall name, path = join secretsDir name -> one.text = other.text

/-- The same host, but for what loose files hold. -/
structure Indistinct (left right : Host) : Prop where
  environment : left.environment = right.environment
  files : forall path, Option.Rel (AlikeUnlessLoose path) (left.files.lookup path)
    (right.files.lookup path)

section Indistinct

variable {left right : Host} {path : String}

theorem readSecret_text {one other : StoredFile} (same : one.text = other.text) :
    readSecret one = readSecret other := by
  unfold readSecret
  rw [same]

theorem Indistinct.explicitPath (same : Indistinct left right) (name : String) :
    Secrets.explicitPath left name = Secrets.explicitPath right name := by
  unfold Secrets.explicitPath
  rw [same.environment]

theorem Indistinct.readProtectedFile (same : Indistinct left right) (path : String) :
    Secrets.readProtectedFile left.files path = Secrets.readProtectedFile right.files path := by
  unfold Secrets.readProtectedFile
  have related := same.files path
  cases here : left.files.lookup path with
  | none =>
      rw [here] at related
      cases there : right.files.lookup path with
      | none => rfl
      | some other =>
          rw [there] at related
          cases related
  | some one =>
      rw [here] at related
      cases there : right.files.lookup path with
      | none =>
          rw [there] at related
          cases related
      | some other =>
          rw [there] at related
          cases related with
          | some alike =>
              dsimp only
              rw [← alike.metadata]
              split
              · rfl
              · rename_i tight
                rw [alike.tight (Bool.eq_false_iff.mpr tight)]

/-- A strict look tells the permissions, and the text only of what is not loose; a look
at the mount is the same for both. -/
theorem Indistinct.classify (same : Indistinct left right) {enforcement : Enforcement}
    (looks : enforcement = .strict ∨ Exists fun name => path = join secretsDir name) :
    classifySecretFile left.files path enforcement =
      classifySecretFile right.files path enforcement := by
  unfold classifySecretFile
  have related := same.files path
  cases here : left.files.lookup path with
  | none =>
      rw [here] at related
      cases there : right.files.lookup path with
      | none => rfl
      | some other =>
          rw [there] at related
          cases related
  | some one =>
      rw [here] at related
      cases there : right.files.lookup path with
      | none =>
          rw [there] at related
          cases related
      | some other =>
          rw [there] at related
          cases related with
          | some alike =>
              dsimp only
              rw [← alike.metadata]
              split
              · cases looks with
                | inl strict =>
                    rw [strict]
                | inr mounted =>
                    rcases mounted with ⟨name, inside⟩
                    rw [readSecret_text (alike.mount name inside)]
              · rename_i tight
                rw [readSecret_text (alike.tight (Bool.eq_false_iff.mpr tight))]

theorem Indistinct.loadSecret (same : Indistinct left right) (name : String) :
    Secrets.loadSecret left name = Secrets.loadSecret right name := by
  have fallback : loadFallback left.files (join secretsDir name) (left.environment name) =
      loadFallback right.files (join secretsDir name) (right.environment name) := by
    unfold loadFallback
    rw [same.classify (Or.inr ⟨name, rfl⟩), same.environment]
  unfold Secrets.loadSecret loadSecretFromSources
  rw [same.explicitPath name, fallback]
  cases Secrets.explicitPath right name with
  | none => rfl
  | some path =>
      dsimp only
      rw [same.classify (Or.inl rfl)]

theorem Indistinct.signingKeySource (same : Indistinct left right) :
    Secrets.signingKeySource left = Secrets.signingKeySource right := by
  unfold Secrets.signingKeySource
  rw [same.environment]
  split
  · rfl
  · split
    · rfl
    · rw [same.readProtectedFile]

end Indistinct

/-- Whatever a file holds that others than its owner may access, nothing comes of it unless
it is in the mount: neither a secret nor a key, nor the client of the rule channel. -/
theorem loose_files_are_never_read {left right : Host} (same : Indistinct left right) :
    (forall name, loadSecret left name = loadSecret right name) ∧
    (forall decode debugAssertions, loadSessionSigningKey decode debugAssertions left =
      loadSessionSigningKey decode debugAssertions right) ∧
    passwordKeySource left = passwordKeySource right ∧
    forall engines connect endpoint, buildRuleManagement engines connect left endpoint =
      buildRuleManagement engines connect right endpoint := by
  refine ⟨same.loadSecret, ?_, ?_, ?_⟩
  · intro decode debugAssertions
    unfold loadSessionSigningKey
    rw [same.signingKeySource, same.environment]
  · unfold passwordKeySource
    rw [same.environment, funext same.readProtectedFile]
  · intro engines connect endpoint
    unfold buildRuleManagement
    rw [same.loadSecret, same.loadSecret, same.loadSecret]

/-- A variable that names a file of the generator turns the rule channel off,
whatever is in the mount and in the other variables. -/
theorem generated_files_are_refused {directory value : String}
    {secrets : List (String × String)} {before : Files} {host : Host}
    (wrote : WriteSecretFiles directory secrets before host.files) {name : String}
    (member : (name, value) ∈ secrets) (wanted : name ∈ secretNames)
    (named : explicitPath host name = some (join directory name))
    (engines : List (String -> Option ByteArray)) (connect : Except String Unit)
    (endpoint : String) :
    buildRuleManagement engines connect host (some endpoint) = .ok none := by
  rcases wrote with ⟨made, -, written⟩
  rcases mode_written written member with ⟨file, found, mode⟩
  have missing := loadSecret_loose named found (loose_of_mode mode)
  unfold buildRuleManagement
  dsimp only
  rcases List.mem_cons.mp wanted with rfl | other
  · rw [missing]
  · rcases List.mem_singleton.mp other with rfl
    rw [missing]
    split
    · rename_i impossible
      cases impossible
    · rfl

end Secrets

namespace Sample

open Secrets RuleManagement Base64

def bareFiles : Files where
  place := fun _ => none
  file := fun _ => ⟨⟨(0, 0), 0o750, true⟩, none⟩

/-- A new file under a path. -/
def putSecret (files : Files) (path value : String) (place : Nat) : Files where
  place := fun other => if other = path then some place else files.place other
  file := fun other =>
    if other = place then ⟨⟨(0, place), 0o440, false⟩, some value⟩ else files.file other

theorem stores_putSecret {files : Files} {path : String} (value : String) (place : Nat)
    (missing : files.place path = none) :
    StoresSecret path value files (putSecret files path value place) where
  stored := by
    refine ⟨place, if_pos rfl, ?_, ?_, fun other different => if_neg different⟩
    · exact congrArg StoredFile.text (if_pos rfl)
    · exact congrArg (fun file : StoredFile => file.metadata.mode) (if_pos rfl)
  kept := by
    intro other found here
    have different : other ≠ path := by
      rintro rfl
      rw [missing] at here
      cases here
    exact (if_neg different).trans here

def evenBytes : ByteArray := ⟨(List.replicate 64 (1 : UInt8)).toArray⟩

def oddBytes : ByteArray := ⟨(List.replicate 64 (2 : UInt8)).toArray⟩

def evenPath : String := join secretsDir "RORSCHACH_SECRET_EVEN"

def oddPath : String := join secretsDir "RORSCHACH_SECRET_ODD"

/-- A mount with the two files of a run of the generator, and no variable. -/
def mounted : Host where
  environment := fun _ => none
  files := putSecret (putSecret bareFiles evenPath (generateSecret evenBytes) 0) oddPath
    (generateSecret oddBytes) 1

theorem mounted_written : WriteSecretFiles secretsDir
    [("RORSCHACH_SECRET_EVEN", generateSecret evenBytes),
      ("RORSCHACH_SECRET_ODD", generateSecret oddBytes)] bareFiles mounted.files := by
  refine ⟨bareFiles, ⟨?_, ?_⟩, ?_⟩
  · intro path place impossible
    cases impossible
  · intro path place _ impossible
    cases impossible
  · refine .cons (stores_putSecret _ 0 rfl) (.cons (stores_putSecret _ 1 ?_) (.nil _))
    decide

theorem generated_secrets_are_served_mounted :
    Exists fun service => buildRuleManagement (tried.map Engine.decode) (.ok ()) mounted
        (some "https://waf.example") = .ok (some service) ∧
      service.secretEven = evenBytes ∧ service.secretOdd = oddBytes ∧
        service.clientId = "kraken-ui" := by
  refine generated_secrets_are_served Engine.strict_decode rfl rfl mounted_written ?_ ?_ rfl ?_ _
  · decide
  · intro name _ path impossible
    cases impossible
  · decide

def keyPath : String := "/etc/kraken.key"

/-- A host with a key that its group may read. -/
def keyed (key : String) : Host where
  environment := fun name =>
    if name = "KRAKEN_UI_SESSION_KEY_FILE" ∨ name = "RORSCHACH_CLIENT_ID_FILE" then some keyPath
    else none
  files := putSecret bareFiles keyPath key 0

theorem keyPath_outside (name : String) : keyPath ≠ join secretsDir name := by
  intro inside
  have joined : join secretsDir name = secretsDir ++ "/" ++ name := by
    have filled : Text.isEmpty secretsDir = false := by decide
    have slashless : secretsDir.toList.getLast? ≠ some '/' := by decide
    rw [join, filled, if_neg Bool.false_ne_true, if_neg slashless]
  rw [joined] at inside
  have second := congrArg (fun text : String => text.toList[1]?) inside
  simp only [String.toList_append] at second
  have front : (secretsDir.toList ++ "/".toList ++ name.toList)[1]? = some 'r' := rfl
  rw [front] at second
  revert second
  decide

theorem keyed_indistinct (one other : String) : Indistinct (keyed one) (keyed other) where
  environment := rfl
  files := by
    intro path
    by_cases named : path = keyPath
    · subst named
      have loose : Config.fileHasLoosePermissions ⟨(0, 0), 0o440, false⟩ = true := by decide
      exact Option.Rel.some ⟨rfl, fun tight => absurd (loose.symm.trans tight) Bool.noConfusion,
        fun name inside => absurd inside (keyPath_outside name)⟩
    · have missing : forall key, (keyed key).files.lookup path = none := by
        intro key
        have placed : (keyed key).files.place path = none := if_neg named
        unfold Files.lookup
        rw [placed]
        rfl
      rw [missing, missing]
      exact Option.Rel.none

/-- Another text in a loose file changes nothing. -/
theorem loose_files_are_never_read_keyed :
    loadSessionSigningKey standard.decode true (keyed (generateSecret evenBytes)) =
      loadSessionSigningKey standard.decode true (keyed (generateSecret oddBytes)) ∧
    loadSecret (keyed "one") "RORSCHACH_CLIENT_ID" =
      loadSecret (keyed "other") "RORSCHACH_CLIENT_ID" :=
  ⟨(loose_files_are_never_read (keyed_indistinct _ _)).2.1 _ _,
    (loose_files_are_never_read (keyed_indistinct _ _)).1 _⟩

end Sample
end KrakenUi
