import Attestation.Loading
import Attestation.Proofs.Computation
import Attestation.Proofs.Key
import Attestation.Proofs.Registry.Wire
import Attestation.Proofs.Text.Bytes

/-!
Loading an identity: it fails with configuration errors only, with settings before files, and
what is loaded is what the files hold.
-/

namespace Attestation

namespace Loading

variable {α β : Type}

section Files

variable (files : String → Except FileFault (List UInt8))

/-- What a loading comes to where `files` tells the content of every file. -/
def loaded (l : Loading α) : Except Error α :=
  (l.run.play (fun path s => (files path, s)) ()).1.value

/-- The files that it opens. -/
def opened (l : Loading α) : List String :=
  (l.run.play (fun path s => (files path, s)) ()).1.asked

/-- The text in a file. -/
def textIn (path : String) : Except Error String :=
  match files path with
  | .error fault => .error (.io path fault)
  | .ok bytes => (Text.ofUtf8? bytes).elim (.error (.io path .notUtf8)) .ok

variable {files}

@[simp] lemma loaded_lift (x : Except Error α) : loaded files (liftM x : Loading α) = x := rfl

@[simp] lemma loaded_text (path : String) : loaded files (text path) = textIn files path := rfl

lemma run_bind (l : Loading α) (f : α → Loading β) : (l >>= f).run = l.run.bind fun
    | .ok a => (f a).run
    | .error e => .done (.error e) :=
  congrArg l.run.bind (funext fun x => by cases x <;> rfl)

@[simp] lemma loaded_bind (l : Loading α) (f : α → Loading β) :
    loaded files (l >>= f) = loaded files l >>= fun a => loaded files (f a) := by
  rw [loaded, run_bind, Dialogue.value_play_bind, loaded]
  cases (l.run.play (fun path s => (files path, s)) ()).1.value <;> rfl

lemma opened_bind (l : Loading α) (f : α → Loading β) : opened files (l >>= f) =
    opened files l ++ (loaded files l).toOption.elim [] fun a => opened files (f a) := by
  rw [opened, run_bind, Dialogue.asked_play_bind, opened, loaded]
  cases (l.run.play (fun path s => (files path, s)) ()).1.value <;> rfl

@[simp] lemma loaded_warn (ws : List Warning) : loaded files (warn ws) = .ok () := by
  induction ws with
  | nil => rfl
  | cons w ws ih => exact ih

@[simp] lemma opened_warn (ws : List Warning) : opened files (warn ws) = [] := by
  induction ws with
  | nil => rfl
  | cons w ws ih => exact ih

lemma textIn_eq_ok_iff {path t : String} :
    textIn files path = .ok t ↔ files path = .ok (Text.utf8 t) := by
  unfold textIn
  cases files path with
  | error fault => simp
  | ok bytes =>
    rw [Except.ok.injEq, ← Text.ofUtf8?_eq_some_iff]
    dsimp only
    cases Text.ofUtf8? bytes <;> simp

end Files

/-! ### Claims and keys -/

section Parts

variable {files : String → Except FileFault (List UInt8)}

lemma loaded_claims (path : String) : loaded files (claims path) =
    textIn files path >>= fun t => (ClaimSet.parse? t).elim (.error (.invalidClaims path)) .ok := by
  rw [claims, loaded_bind, loaded_text]
  congr 1
  funext t
  cases ClaimSet.parse? t <;> rfl

lemma loaded_keyPair (privatePath publicPath : String) :
    loaded files (keyPair privatePath publicPath) = (do
      let privatePem ← textIn files privatePath
      let publicPem ← textIn files publicPath
      let signing ← inKeyFile privatePath (SigningKey.ofPem privatePem)
      let verifying ← inKeyFile publicPath (PublicKey.ofPem publicPem)
      KeyPair.ofParts signing verifying) := by
  simp only [keyPair, loaded_bind, loaded_text, loaded_lift]

lemma loaded_claims_eq_ok_iff {path : String} {c : ClaimSet} : loaded files (claims path) = .ok c ↔
    ∃ t, files path = .ok (Text.utf8 t) ∧ ClaimSet.parse? t = some c := by
  simp only [loaded_claims, Except.bind_eq_ok_iff, textIn_eq_ok_iff]
  refine exists_congr fun t => and_congr_right fun _ => ?_
  cases ClaimSet.parse? t <;> simp

lemma inKeyFile_eq_ok_iff {path : String} {x : Except Error α} {a : α} :
    inKeyFile path x = .ok a ↔ x = .ok a := by
  cases x with
  | error e => exact ⟨(nomatch ·), (nomatch ·)⟩
  | ok b => exact Iff.rfl

lemma ofParts_eq_ok_iff {signing : SigningKey} {verifying : PublicKey} {k : KeyPair} :
    KeyPair.ofParts signing verifying = .ok k ↔ signing = k.signing ∧ verifying = k.verifying := by
  obtain ⟨signing', verifying', hmatch⟩ := k
  unfold KeyPair.ofParts
  constructor
  · intro h
    split at h
    · cases h
      exact ⟨rfl, rfl⟩
    · cases h
  · rintro ⟨rfl, rfl⟩
    exact dif_pos hmatch

lemma loaded_keyPair_eq_ok_iff {privatePath publicPath : String} {k : KeyPair} :
    loaded files (keyPair privatePath publicPath) = .ok k ↔
      ∃ privatePem publicPem, files privatePath = .ok (Text.utf8 privatePem) ∧
        files publicPath = .ok (Text.utf8 publicPem) ∧
        SigningKey.ofPem privatePem = .ok k.signing ∧
        PublicKey.ofPem publicPem = .ok k.verifying := by
  simp only [loaded_keyPair, Except.bind_eq_ok_iff, textIn_eq_ok_iff, inKeyFile_eq_ok_iff,
    ofParts_eq_ok_iff]
  constructor
  · rintro ⟨a, ha, b, hb, _, hs, _, hv, rfl, rfl⟩
    exact ⟨a, b, ha, hb, hs, hv⟩
  · rintro ⟨a, b, ha, hb, hs, hv⟩
    exact ⟨a, ha, b, hb, _, hs, _, hv, rfl, rfl⟩

end Parts

/-! ### Errors -/

/-- Whatever fails fails for good. -/
def Fatal (x : Except Error α) : Prop := ∀ e, x = .error e → e.kind = .configuration

lemma fatal_ok (a : α) : Fatal (.ok a : Except Error α) := fun _ h => by cases h

lemma fatal_error {e : Error} (h : e.kind = .configuration) : Fatal (.error e : Except Error α) :=
  fun _ he => by cases he; exact h

lemma Fatal.bind {x : Except Error α} {f : α → Except Error β} (hx : Fatal x)
    (hf : ∀ a, Fatal (f a)) : Fatal (x >>= f) := by
  cases x with
  | error e => exact fatal_error (hx e rfl)
  | ok a => exact hf a

/-- An error of whatever kind is one of the configuration once it is put down to a key file. -/
lemma fatal_inKeyFile (path : String) (x : Except Error α) : Fatal (inKeyFile path x) := by
  cases x with
  | error e => exact fatal_error rfl
  | ok a => exact fatal_ok a

section Errors

variable {files : String → Except FileFault (List UInt8)}

lemma fatal_textIn (path : String) : Fatal (textIn files path) := by
  unfold textIn
  cases files path with
  | error fault => exact fatal_error rfl
  | ok bytes =>
    dsimp only
    cases Text.ofUtf8? bytes with
    | none => exact fatal_error rfl
    | some t => exact fatal_ok t

lemma fatal_claims (path : String) : Fatal (loaded files (claims path)) := by
  rw [loaded_claims]
  refine (fatal_textIn path).bind fun t => ?_
  cases ClaimSet.parse? t with
  | none => exact fatal_error rfl
  | some c => exact fatal_ok c

lemma fatal_ofParts (signing : SigningKey) (verifying : PublicKey) :
    Fatal (KeyPair.ofParts signing verifying) := by
  unfold KeyPair.ofParts
  split
  · exact fatal_ok _
  · exact fatal_error rfl

lemma fatal_keyPair (privatePath publicPath : String) :
    Fatal (loaded files (keyPair privatePath publicPath)) := by
  rw [loaded_keyPair]
  exact (fatal_textIn _).bind fun _ => (fatal_textIn _).bind fun _ =>
    (fatal_inKeyFile _ _).bind fun _ => (fatal_inKeyFile _ _).bind fun _ => fatal_ofParts _ _

end Errors

end Loading

/-! ### Settings -/

namespace Settings

variable {s : Settings} {name : String}

/-- The names of the values that every participant needs. -/
def requiredNames : List String :=
  ["claims_path", "private_key_path", "public_key_path", "registry.url"]

/-- The settings are without the value of this name. -/
inductive Lacks (s : Settings) : String → Prop where
  | claimsPath (h : s.claimsPath = none) : Lacks s "claims_path"
  | privateKeyPath (h : s.privateKeyPath = none) : Lacks s "private_key_path"
  | publicKeyPath (h : s.publicKeyPath = none) : Lacks s "public_key_path"
  | url (h : ∀ u, s.registry.url = some u → Text.isBlank u = true) : Lacks s "registry.url"

lemma hasUrl_eq_false_iff :
    s.hasUrl = false ↔ ∀ u, s.registry.url = some u → Text.isBlank u = true := by
  unfold hasUrl
  cases s.registry.url <;> simp

lemma mem_missing_iff : name ∈ s.missing ↔ s.Lacks name := by
  have hmem : name ∈ s.missing ↔
      (s.claimsPath = none ∧ name = "claims_path") ∨
        (s.privateKeyPath = none ∧ name = "private_key_path") ∨
        (s.publicKeyPath = none ∧ name = "public_key_path") ∨
        (s.hasUrl = false ∧ name = "registry.url") := by
    unfold missing
    cases s.claimsPath <;> cases s.privateKeyPath <;> cases s.publicKeyPath <;>
      cases s.hasUrl <;> simp
  rw [hmem, hasUrl_eq_false_iff]
  constructor
  · rintro (⟨h, rfl⟩ | ⟨h, rfl⟩ | ⟨h, rfl⟩ | ⟨h, rfl⟩)
    · exact .claimsPath h
    · exact .privateKeyPath h
    · exact .publicKeyPath h
    · exact .url h
  · intro h
    cases h with
    | claimsPath h => exact .inl ⟨h, rfl⟩
    | privateKeyPath h => exact .inr (.inl ⟨h, rfl⟩)
    | publicKeyPath h => exact .inr (.inr (.inl ⟨h, rfl⟩))
    | url h => exact .inr (.inr (.inr ⟨h, rfl⟩))

lemma missing_sublist (s : Settings) : s.missing.Sublist requiredNames := by
  have hname : ∀ (p : Prop) [Decidable p] (name : String),
      (if p then [name] else []).Sublist [name] := by
    intro p _ name
    by_cases h : p <;> simp [h]
  have hurl : (if s.hasUrl = true then [] else ["registry.url"]).Sublist ["registry.url"] := by
    by_cases h : s.hasUrl = true <;> simp [h]
  exact (((hname _ _).append (hname _ _)).append (hname _ _)).append hurl

lemma missing_eq_nil_iff : s.missing = [] ↔ ∀ name, ¬ s.Lacks name := by
  simp only [List.eq_nil_iff_forall_not_mem, mem_missing_iff]

lemma exists_paths (h : ∀ name, ¬ s.Lacks name) : ∃ claimsPath privatePath publicPath,
    s.claimsPath = some claimsPath ∧ s.privateKeyPath = some privatePath ∧
      s.publicKeyPath = some publicPath := by
  obtain ⟨claimsPath, hc⟩ := Option.ne_none_iff_exists'.1 fun hc => h _ (.claimsPath hc)
  obtain ⟨privatePath, hp⟩ := Option.ne_none_iff_exists'.1 fun hp => h _ (.privateKeyPath hp)
  obtain ⟨publicPath, hv⟩ := Option.ne_none_iff_exists'.1 fun hv => h _ (.publicKeyPath hv)
  exact ⟨claimsPath, privatePath, publicPath, hc, hp, hv⟩

lemma validate_of_lacks (h : s.Lacks name) :
    s.validate = .error (.missingConfiguration s.missing) :=
  if_pos fun hnil => missing_eq_nil_iff.1 hnil name h

lemma validate_of_zeroTimeout (h : ∀ name, ¬ s.Lacks name) (htimeout : s.registry.timeout = 0) :
    s.validate = .error (.configuration .zeroTimeout) := by
  rw [validate, if_neg (not_not_intro (missing_eq_nil_iff.2 h)), if_pos htimeout]

lemma validate_eq_ok_iff :
    s.validate = .ok () ↔ (∀ name, ¬ s.Lacks name) ∧ s.registry.timeout ≠ 0 := by
  rw [validate, ← missing_eq_nil_iff]
  by_cases hmissing : s.missing = [] <;> by_cases htimeout : s.registry.timeout = 0 <;>
    simp [hmissing, htimeout]

lemma fatal_validate (s : Settings) : Loading.Fatal s.validate := by
  unfold validate
  split
  · exact Loading.fatal_error rfl
  · split
    · exact Loading.fatal_error rfl
    · exact Loading.fatal_ok ()

end Settings

/-! ### Identities -/

/-- The public key of a pair verifies the probe that the signing key signs. -/
lemma KeyPair.verify_probe (k : KeyPair) :
    k.verifying.verify probeMessage (k.signing.sign probeMessage) = .ok () := by
  have hmatch := k.matching
  unfold keysMatch at hmatch
  cases hverify : k.verifying.verify probeMessage (k.signing.sign probeMessage) with
  | ok u => rfl
  | error e =>
    rw [hverify] at hmatch
    cases hmatch

namespace Loading

variable {files : String → Except FileFault (List UInt8)} {participant : String} {s : Settings}

lemma ends_of_invalid {e : Error} (h : s.validate = .error e) :
    loaded files (identity participant s) = .error e ∧
      opened files (identity participant s) = [] := by
  have hlift : loaded files (liftM s.validate : Loading Unit) = .error e := h
  have hnone : opened files (liftM s.validate : Loading Unit) = [] := rfl
  simp only [identity, loaded_bind, loaded_warn, opened_bind, opened_warn, hlift, hnone]
  exact ⟨rfl, rfl⟩

lemma loaded_identity {claimsPath privatePath publicPath : String} (h : s.validate = .ok ())
    (hc : s.claimsPath = some claimsPath) (hp : s.privateKeyPath = some privatePath)
    (hv : s.publicKeyPath = some publicPath) : loaded files (identity participant s) = (do
      let c ← loaded files (claims claimsPath)
      let keys ← loaded files (keyPair privatePath publicPath)
      Identity.ofParts participant c keys) := by
  simp only [identity, loaded_bind, loaded_warn, loaded_lift, h, hc, hp, hv]
  rfl

/-- The files and the settings make up the identity `i` of the participant. -/
structure Provides (files : String → Except FileFault (List UInt8)) (participant : String)
    (s : Settings) (i : Identity) : Prop where
  complete (name : String) : ¬ s.Lacks name
  timeout : s.registry.timeout ≠ 0
  named : Text.isBlank participant = false
  participant_eq : i.participant = participant
  claims : ∃ path t, s.claimsPath = some path ∧ files path = .ok (Text.utf8 t) ∧
    ClaimSet.parse? t = some i.signed.claims
  signing : ∃ path pem, s.privateKeyPath = some path ∧ files path = .ok (Text.utf8 pem) ∧
    SigningKey.ofPem pem = .ok i.keys.signing
  verifying : ∃ path pem, s.publicKeyPath = some path ∧ files path = .ok (Text.utf8 pem) ∧
    PublicKey.ofPem pem = .ok i.keys.verifying
  matching : i.keys.verifying.verify probeMessage (i.keys.signing.sign probeMessage) = .ok ()
  signature : i.signed.signature = i.keys.signing.signClaims i.signed.claims

lemma identityOfParts_eq_ok_iff {c : ClaimSet} {keys : KeyPair} {i : Identity} :
    Identity.ofParts participant c keys = .ok i ↔
      Text.isBlank participant = false ∧ ⟨participant, keys, .sign c keys.signing⟩ = i := by
  rw [Identity.ofParts]
  cases Text.isBlank participant <;> simp

lemma loaded_identity_eq_ok_iff {i : Identity} :
    loaded files (identity participant s) = .ok i ↔ Provides files participant s i := by
  constructor
  · intro h
    have hvalid : s.validate = .ok () := by
      cases hv : s.validate with
      | ok u => rfl
      | error e =>
        rw [(ends_of_invalid hv).1] at h
        cases h
    obtain ⟨hcomplete, htimeout⟩ := Settings.validate_eq_ok_iff.1 hvalid
    obtain ⟨claimsPath, privatePath, publicPath, hc, hp, hv⟩ := Settings.exists_paths hcomplete
    simp only [loaded_identity hvalid hc hp hv, Except.bind_eq_ok_iff, loaded_claims_eq_ok_iff,
      loaded_keyPair_eq_ok_iff, identityOfParts_eq_ok_iff] at h
    obtain ⟨c, ⟨t, ht, hparse⟩, keys, ⟨privatePem, publicPem, hprivate, hpublic, hsigning,
      hverifying⟩, hnamed, rfl⟩ := h
    exact {
      complete := hcomplete
      timeout := htimeout
      named := hnamed
      participant_eq := rfl
      claims := ⟨claimsPath, t, hc, ht, hparse⟩
      signing := ⟨privatePath, privatePem, hp, hprivate, hsigning⟩
      verifying := ⟨publicPath, publicPem, hv, hpublic, hverifying⟩
      matching := keys.verify_probe
      signature := rfl }
  · intro h
    obtain ⟨claimsPath, t, hc, ht, hparse⟩ := h.claims
    obtain ⟨privatePath, privatePem, hp, hprivate, hsigning⟩ := h.signing
    obtain ⟨publicPath, publicPem, hv, hpublic, hverifying⟩ := h.verifying
    have hvalid := Settings.validate_eq_ok_iff.2 ⟨h.complete, h.timeout⟩
    simp only [loaded_identity hvalid hc hp hv, Except.bind_eq_ok_iff, loaded_claims_eq_ok_iff,
      loaded_keyPair_eq_ok_iff, identityOfParts_eq_ok_iff]
    refine ⟨i.signed.claims, ⟨t, ht, hparse⟩, i.keys, ⟨privatePem, publicPem, hprivate, hpublic,
      hsigning, hverifying⟩, h.named, ?_⟩
    obtain ⟨participant', keys, ⟨c, signature⟩⟩ := i
    obtain rfl : participant' = participant := h.participant_eq
    obtain rfl : signature = keys.signing.signClaims c := h.signature
    rfl

lemma fatal_identity (files : String → Except FileFault (List UInt8)) (participant : String)
    (s : Settings) : Fatal (loaded files (identity participant s)) := by
  cases hvalid : s.validate with
  | error e =>
    rw [(ends_of_invalid hvalid).1]
    exact fatal_error (s.fatal_validate e hvalid)
  | ok u =>
    obtain ⟨hcomplete, -⟩ := Settings.validate_eq_ok_iff.1 hvalid
    obtain ⟨claimsPath, privatePath, publicPath, hc, hp, hv⟩ := Settings.exists_paths hcomplete
    rw [loaded_identity hvalid hc hp hv]
    refine (fatal_claims _).bind fun c => (fatal_keyPair _ _).bind fun keys => ?_
    unfold Identity.ofParts
    split
    · exact fatal_error rfl
    · exact fatal_ok _

/-! ### The order of the files -/

lemma opened_text (path : String) : opened files (text path) = [path] := rfl

lemma opened_lift (x : Except Error α) : opened files (liftM x : Loading α) = [] := rfl

lemma opened_bind_nil {l : Loading α} {f : α → Loading β} (hl : opened files l = [])
    (hf : ∀ a, opened files (f a) = []) : opened files (l >>= f) = [] := by
  rw [opened_bind, hl]
  cases loaded files l with
  | error e => rfl
  | ok a => exact hf a

lemma opened_claims (path : String) : opened files (claims path) = [path] := by
  rw [claims, opened_bind, opened_text]
  cases loaded files (text path) with
  | error e => rfl
  | ok t => cases h : ClaimSet.parse? t <;> simp [Except.toOption, h] <;> rfl

/-- Both key files are read before the documents are looked into. -/
lemma opened_keyPair (privatePath publicPath : String) :
    opened files (keyPair privatePath publicPath) <+: [privatePath, publicPath] := by
  rw [keyPair, opened_bind, opened_text]
  cases loaded files (text privatePath) with
  | error e => exact ⟨[publicPath], rfl⟩
  | ok privatePem =>
    dsimp only [Except.toOption, Option.elim]
    rw [opened_bind, opened_text]
    cases loaded files (text publicPath) with
    | error e => exact ⟨[], rfl⟩
    | ok publicPem =>
      dsimp only [Except.toOption, Option.elim]
      rw [opened_bind_nil (opened_lift _) fun signing =>
        opened_bind_nil (opened_lift _) fun verifying => opened_lift _]
      exact ⟨[], rfl⟩

lemma opened_identity (files : String → Except FileFault (List UInt8)) (participant : String)
    (s : Settings) : opened files (identity participant s) <+:
      [s.claimsPath, s.privateKeyPath, s.publicKeyPath].reduceOption := by
  cases hvalid : s.validate with
  | error e =>
    rw [(ends_of_invalid hvalid).2]
    exact List.nil_prefix
  | ok u =>
    obtain ⟨hcomplete, -⟩ := Settings.validate_eq_ok_iff.1 hvalid
    obtain ⟨claimsPath, privatePath, publicPath, hc, hp, hv⟩ := Settings.exists_paths hcomplete
    simp only [identity, opened_bind, opened_warn, loaded_warn, loaded_lift, opened_lift, hvalid,
      hc, hp, hv, opened_claims, Except.toOption, Option.elim, List.nil_append]
    cases loaded files (claims claimsPath) with
    | error e => exact ⟨[privatePath, publicPath], rfl⟩
    | ok c =>
      have hprefix : [claimsPath] ++ (opened files (keyPair privatePath publicPath) ++ []) <+:
          [claimsPath] ++ [privatePath, publicPath] := by
        rw [List.append_nil, List.prefix_append_right_inj]
        exact opened_keyPair _ _
      cases loaded files (keyPair privatePath publicPath) <;> exact hprefix

/-- The identity in three files: what is looked at in turn, each step with an error of its own. -/
def identityIn (files : String → Except FileFault (List UInt8))
    (claimsPath privatePath publicPath participant : String) : Except Error Identity := do
  let t ← textIn files claimsPath
  let c ← (ClaimSet.parse? t).elim (.error (.invalidClaims claimsPath)) .ok
  let privatePem ← textIn files privatePath
  let publicPem ← textIn files publicPath
  let signing ← inKeyFile privatePath (SigningKey.ofPem privatePem)
  let verifying ← inKeyFile publicPath (PublicKey.ofPem publicPem)
  let keys ← KeyPair.ofParts signing verifying
  Identity.ofParts participant c keys

lemma loaded_eq_identityIn {claimsPath privatePath publicPath : String} (h : s.validate = .ok ())
    (hc : s.claimsPath = some claimsPath) (hp : s.privateKeyPath = some privatePath)
    (hv : s.publicKeyPath = some publicPath) : loaded files (identity participant s) =
      identityIn files claimsPath privatePath publicPath participant := by
  simp only [loaded_identity h hc hp hv, loaded_claims, loaded_keyPair, identityIn, bind_assoc]

/-- How loading goes, whatever is in the files. -/
structure Orderly (participant : String) (s : Settings) : Prop where
  fatal (files : String → Except FileFault (List UInt8)) (e : Error)
    (h : loaded files (identity participant s) = .error e) : e.kind = .configuration
  incomplete {name : String} (h : s.Lacks name) : ∃ fields,
    fields.Sublist Settings.requiredNames ∧ (∀ name, name ∈ fields ↔ s.Lacks name) ∧
      ∀ files, loaded files (identity participant s) = .error (.missingConfiguration fields) ∧
        opened files (identity participant s) = []
  zeroTimeout (h : ∀ name, ¬ s.Lacks name) (htimeout : s.registry.timeout = 0)
    (files : String → Except FileFault (List UInt8)) :
    loaded files (identity participant s) = .error (.configuration .zeroTimeout) ∧
      opened files (identity participant s) = []
  order (files : String → Except FileFault (List UInt8)) :
    opened files (identity participant s) <+:
      [s.claimsPath, s.privateKeyPath, s.publicKeyPath].reduceOption
  stages (h : ∀ name, ¬ s.Lacks name) (htimeout : s.registry.timeout ≠ 0) :
    ∃ claimsPath privatePath publicPath, s.claimsPath = some claimsPath ∧
      s.privateKeyPath = some privatePath ∧ s.publicKeyPath = some publicPath ∧
      ∀ files, loaded files (identity participant s) =
        identityIn files claimsPath privatePath publicPath participant
  loads (files : String → Except FileFault (List UInt8)) (i : Identity) :
    loaded files (identity participant s) = .ok i ↔ Provides files participant s i

/-- **Loading an identity fails only for good, and in a fixed order.** Every error is one of the
configuration. Settings are refused without opening a file, all missing values named in order.
What is loaded is what the files hold, and it is loaded whenever they hold it. -/
theorem orderly_identity (participant : String) (s : Settings) : Orderly participant s where
  fatal files := fatal_identity files participant s
  incomplete h := ⟨s.missing, s.missing_sublist, fun _ => Settings.mem_missing_iff,
    fun _ => ends_of_invalid (Settings.validate_of_lacks h)⟩
  zeroTimeout h htimeout _ := ends_of_invalid (Settings.validate_of_zeroTimeout h htimeout)
  order files := opened_identity files participant s
  stages h htimeout := by
    obtain ⟨claimsPath, privatePath, publicPath, hc, hp, hv⟩ := Settings.exists_paths h
    exact ⟨claimsPath, privatePath, publicPath, hc, hp, hv, fun files =>
      loaded_eq_identityIn (Settings.validate_eq_ok_iff.2 ⟨h, htimeout⟩) hc hp hv⟩
  loads _ _ := loaded_identity_eq_ok_iff

/-- The claims are read from a file that either printer has written. -/
lemma parse?_of_mem_texts {c : ClaimSet} (hdepth : c.json.depth < Json.depthLimit)
    (hreals : c.RealsReadBack) {t : String} (ht : t ∈ c.json.texts) : ClaimSet.parse? t = some c := by
  rw [ClaimSet.parse?, Json.draftParse_of_mem_texts hdepth hreals ht]
  exact c.ofJson?_json

/-- **What a participant has written is loaded**: the claims in a text of theirs, the signing key
and the public key that is derived from it in PEM. -/
theorem loaded_identity_of_written {c : ClaimSet} {k : SigningKey} {t : String}
    (hcomplete : ∀ name, ¬ s.Lacks name) (htimeout : s.registry.timeout ≠ 0)
    (hnamed : Text.isBlank participant = false) (hdepth : c.json.depth < Json.depthLimit)
    (hreals : c.RealsReadBack) (ht : t ∈ c.json.texts)
    (hclaims : ∀ path, s.claimsPath = some path → files path = .ok (Text.utf8 t))
    (hprivate : ∀ path, s.privateKeyPath = some path → files path = .ok (Text.utf8 k.pem))
    (hpublic : ∀ path, s.publicKeyPath = some path → files path = .ok (Text.utf8 k.publicKey.pem)) :
    loaded files (identity participant s) =
      .ok ⟨participant, ⟨k, k.publicKey, k.keysMatch_publicKey⟩, .sign c k⟩ := by
  obtain ⟨claimsPath, privatePath, publicPath, hc, hp, hv⟩ := Settings.exists_paths hcomplete
  exact loaded_identity_eq_ok_iff.2 {
    complete := hcomplete
    timeout := htimeout
    named := hnamed
    participant_eq := rfl
    claims := ⟨claimsPath, t, hc, hclaims _ hc, parse?_of_mem_texts hdepth hreals ht⟩
    signing := ⟨privatePath, k.pem, hp, hprivate _ hp, k.ofPem_pem⟩
    verifying := ⟨publicPath, k.publicKey.pem, hv, hpublic _ hv,
      PublicKey.ofPem_pem k.isPoint_publicKey⟩
    matching := k.verify_sign probeMessage
    signature := rfl }

end Loading

end Attestation
