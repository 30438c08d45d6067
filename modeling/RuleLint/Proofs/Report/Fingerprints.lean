import RuleLint.Proofs.Report.DomainsApart

/-!
# Fingerprints of findings

A fingerprint is taken of a text with a zero after each part. A part is read back from it if it is known how many
zeros the parts before and it hold, which is none for the path of a file. So findings with the same bytes have the
same parts, unless domains or identifiers hold zeros (`fingerprint_identifies`).
-/

namespace RuleLint

namespace Sha256

/-! ## Base 16 -/

def hexDigit (n : Nat) : Char := if n < 10 then Char.ofNat (48 + n) else Char.ofNat (87 + n)

theorem hexDigit_inj : ∀ m < 16, ∀ n < 16, hexDigit m = hexDigit n → m = n := by decide

theorem toList_hexText (bytes : List UInt8) : (hexText bytes).toList =
    bytes.flatMap fun b => [hexDigit (b.toNat / 16), hexDigit (b.toNat % 16)] := String.toList_ofList

theorem hexText_injective : Function.Injective hexText := by
  intro a b h
  have hchars := congrArg String.toList h
  rw [toList_hexText, toList_hexText] at hchars
  clear h
  induction a generalizing b with
  | nil =>
    cases b with
    | nil => rfl
    | cons y b => simp at hchars
  | cons x a ih =>
    cases b with
    | nil => simp at hchars
    | cons y b =>
      simp only [List.flatMap_cons, List.cons_append, List.nil_append, List.cons.injEq] at hchars
      obtain ⟨hhigh, hlow, hrest⟩ := hchars
      have hx := x.toNat_lt
      have hy := y.toNat_lt
      have h₁ := hexDigit_inj _ (by omega) _ (by omega) hhigh
      have h₂ := hexDigit_inj _ (by omega) _ (by omega) hlow
      have hxy : x = y := UInt8.toNat_inj.mp (by omega)
      rw [hxy, ih hrest]

def Collide (a b : List UInt8) : Prop := a ≠ b ∧ digest a = digest b

theorem digest_eq_iff {a b : List UInt8} : digest a = digest b ↔ a = b ∨ Collide a b := by
  by_cases h : a = b
  · simp [h]
  · simp [h, Collide]

end Sha256

namespace Sarif

/-! ## Parts -/

def nul : Char := '\x00'

def nuls (s : String) : Nat := s.toList.count nul

def fingerprintParts (domain : String) (f : Finding) : List String :=
  [domain, f.ruleId, artifactUri f, f.snippet]

theorem fingerprintBytes_eq (parts : List String) : fingerprintBytes parts =
    (String.ofList (parts.flatMap fun s => s.toList ++ [nul])).toUTF8.data.toList := by
  have hnul : (String.ofList [nul]).toByteArray.data.toList = [0] := by decide
  induction parts with
  | nil => rfl
  | cons s parts ih =>
    rw [fingerprintBytes] at ih ⊢
    rw [List.flatMap_cons, ih, List.flatMap_cons, String.ofList_append, String.ofList_append, String.ofList_toList]
    simp only [String.toUTF8, String.toByteArray_append, ByteArray.data_append, Array.toList_append, hnul]

theorem fingerprintBytes_inj {a b : List String} : fingerprintBytes a = fingerprintBytes b ↔
    (a.flatMap fun s => s.toList ++ [nul]) = b.flatMap fun s => s.toList ++ [nul] := by
  rw [fingerprintBytes_eq, fingerprintBytes_eq]
  constructor
  · intro h
    have hbytes := ByteArray.ext (Array.toList_inj.mp h)
    exact String.ofList_injective (String.toByteArray_inj.mp hbytes)
  · intro h
    rw [h]

section
variable {domain domain' : String} {f f' : Finding}

theorem nul_not_mem_artifactUri (h : nul ∉ f.file.text.toList) : nul ∉ (artifactUri f).toList := by
  rw [artifactUri, String.toList_ofList, List.mem_map]
  rintro ⟨c, hc, heq⟩
  split at heq
  · cases heq
  · exact h (heq ▸ hc)

structure Same (domain domain' : String) (f f' : Finding) : Prop where
  domain : domain = domain'
  ruleId : f.ruleId = f'.ruleId
  uri : artifactUri f = artifactUri f'
  snippet : f.snippet = f'.snippet

def bytesOf (domain : String) (f : Finding) : List UInt8 := fingerprintBytes (fingerprintParts domain f)

theorem fingerprint_eq (domain : String) (f : Finding) :
    fingerprint domain f = Sha256.hexText (Sha256.digest (bytesOf domain f)) := rfl

theorem Same.bytesOf_eq (h : Same domain domain' f f') : bytesOf domain f = bytesOf domain' f' := by
  unfold bytesOf fingerprintParts
  rw [h.domain, h.ruleId, h.uri, h.snippet]

/-- The parts are read back one after the other. -/
theorem same_of_bytesOf (hf : nul ∉ f.file.text.toList) (hf' : nul ∉ f'.file.text.toList)
    (hdomain : nuls domain = nuls domain') (hid : nuls f.ruleId = nuls f'.ruleId)
    (h : bytesOf domain f = bytesOf domain' f') : Same domain domain' f f' := by
  have hchars := fingerprintBytes_inj.mp h
  simp only [fingerprintParts, List.flatMap_cons, List.flatMap_nil, List.append_assoc, List.singleton_append,
    List.append_nil] at hchars
  have huri : (artifactUri f).toList.count nul = (artifactUri f').toList.count nul := by
    rw [List.count_eq_zero.mpr (nul_not_mem_artifactUri hf), List.count_eq_zero.mpr (nul_not_mem_artifactUri hf')]
  obtain ⟨h₁, hchars⟩ := append_inj_of_count hdomain hchars
  obtain ⟨h₂, hchars⟩ := append_inj_of_count hid hchars
  obtain ⟨h₃, hchars⟩ := append_inj_of_count huri hchars
  exact ⟨String.toList_inj.mp h₁, String.toList_inj.mp h₂, String.toList_inj.mp h₃,
    String.toList_inj.mp (List.append_cancel_right hchars)⟩

theorem same_iff (hf : nul ∉ f.file.text.toList) (hf' : nul ∉ f'.file.text.toList) :
    Same domain domain' f f' ↔ bytesOf domain f = bytesOf domain' f' ∧ nuls domain = nuls domain' ∧
      nuls f.ruleId = nuls f'.ruleId := by
  constructor
  · intro h
    exact ⟨h.bytesOf_eq, by rw [h.domain], by rw [h.ruleId]⟩
  · rintro ⟨h, hdomain, hid⟩
    exact same_of_bytesOf hf hf' hdomain hid h

end

/-- A fingerprint is that of another exactly if it is taken of the same bytes, collisions of the digest apart. Of
findings in files whose paths hold no zero the bytes are the same and so many zeros are in the domains and in the
identifiers exactly if domain, rule, address and text are the same. So if no domain or identifier holds a zero, the
bytes tell these four and nothing else. -/
theorem fingerprint_identifies {domain domain' : String} {f f' : Finding} (hf : nul ∉ f.file.text.toList)
    (hf' : nul ∉ f'.file.text.toList) :
    (Same domain domain' f f' ↔ bytesOf domain f = bytesOf domain' f' ∧ nuls domain = nuls domain' ∧
      nuls f.ruleId = nuls f'.ruleId) ∧
    ((∀ s ∈ [domain, domain', f.ruleId, f'.ruleId], nul ∉ s.toList) →
      (bytesOf domain f = bytesOf domain' f' ↔ Same domain domain' f f')) ∧
    (fingerprint domain f = fingerprint domain' f' ↔
      bytesOf domain f = bytesOf domain' f' ∨ Sha256.Collide (bytesOf domain f) (bytesOf domain' f')) ∧
    ∀ line column severity message,
      fingerprint domain { f with line, column, severity, message } = fingerprint domain f := by
  refine ⟨same_iff hf hf', fun hplain => ?_, ?_, fun _ _ _ _ => rfl⟩
  · have hnone : ∀ s ∈ [domain, domain', f.ruleId, f'.ruleId], nuls s = 0 :=
      fun s hs => List.count_eq_zero.mpr (hplain s hs)
    have hdomain : nuls domain = nuls domain' := by rw [hnone domain (by simp), hnone domain' (by simp)]
    have hid : nuls f.ruleId = nuls f'.ruleId := by rw [hnone f.ruleId (by simp), hnone f'.ruleId (by simp)]
    exact ⟨same_of_bytesOf hf hf' hdomain hid, Same.bytesOf_eq⟩
  · rw [fingerprint_eq, fingerprint_eq, Sha256.hexText_injective.eq_iff, Sha256.digest_eq_iff]

theorem fingerprint_identifies_moved :
    let f : Finding := ⟨⟨"/a"⟩, 1, 1, "A", .must, "m", "x"⟩
    let moved : Finding := ⟨⟨"/a"⟩, 30, 7, "A", .should, "n", "x"⟩
    let other : Finding := ⟨⟨"/a"⟩, 1, 1, "B", .must, "m", "x"⟩
    bytesOf "d" f = bytesOf "d" moved ∧ bytesOf "d" f ≠ bytesOf "d" other := by
  intro f moved other
  have hpath : nul ∉ f.file.text.toList := by decide
  have hplain (id : String) (hid : nul ∉ id.toList) : ∀ s ∈ ["d", "d", "A", id], nul ∉ s.toList := by
    simp only [List.forall_mem_cons, List.not_mem_nil, false_imp_iff, implies_true, and_true]
    exact ⟨by decide, by decide, by decide, hid⟩
  obtain ⟨-, hmoved, -⟩ := @fingerprint_identifies "d" "d" f moved hpath hpath
  obtain ⟨-, hother, -⟩ := @fingerprint_identifies "d" "d" f other hpath hpath
  refine ⟨(hmoved (hplain "A" (by decide))).mpr ⟨rfl, rfl, rfl, rfl⟩, fun h => ?_⟩
  exact absurd ((hother (hplain "B" (by decide))).mp h).ruleId (by decide)

end Sarif

namespace Linting

open Sarif (nul bytesOf Same)

/-! ## Two findings with one fingerprint -/

def fileOnly : FileTree := ⟨.dir [("a", .file (.text "x"))], []⟩

theorem finding_of_document {p : FilePath} {text domain id : String}
    (h : ((RuleSet.parse p text).toOption.map fun s =>
      (s.domain, (files .full fileOnly s.domain s.rules [⟨"/a"⟩]).1)) = some (domain, oneFinding domain id)) :
    ∃ s, RuleSet.parse p text = .ok s ∧ s.domain = domain ∧
      ⟨⟨"/a"⟩, 1, 1, id, .must, "m", "x"⟩ ∈ (files .full fileOnly s.domain s.rules [⟨"/a"⟩]).1.findings := by
  obtain ⟨s, hs, h⟩ := exists_ok_of_toOption_map h
  obtain ⟨hdomain, hsummary⟩ := Prod.mk.inj h
  refine ⟨s, hs, hdomain, ?_⟩
  rw [hsummary]
  exact List.mem_singleton_self _

set_option maxRecDepth 100000 in
/-- Findings of two rules have one fingerprint if the zero between domain and identifier can be read in two ways. -/
theorem fingerprint_shared : ∃ s s', RuleSet.parse ⟨"r"⟩ (documentOf "a\\u0000b" "c") = .ok s ∧
    RuleSet.parse ⟨"s"⟩ (documentOf "a" "b\\u0000c") = .ok s' ∧
    ∃ f ∈ (files .full fileOnly s.domain s.rules [⟨"/a"⟩]).1.findings,
    ∃ f' ∈ (files .full fileOnly s'.domain s'.rules [⟨"/a"⟩]).1.findings,
      nul ∉ f.file.text.toList ∧ nul ∉ f'.file.text.toList ∧ bytesOf s.domain f = bytesOf s'.domain f' ∧
      s.domain ≠ s'.domain ∧ f.ruleId ≠ f'.ruleId := by
  obtain ⟨s, hs, hdomain, hf⟩ := @finding_of_document ⟨"r"⟩ (documentOf "a\\u0000b" "c") "a\x00b" "c" (by cbv)
  obtain ⟨s', hs', hdomain', hf'⟩ := @finding_of_document ⟨"s"⟩ (documentOf "a" "b\\u0000c") "a" "b\x00c" (by cbv)
  refine ⟨s, s', hs, hs', _, hf, _, hf', by decide, by decide, ?_, ?_, by decide⟩
  · rw [hdomain, hdomain']
    decide
  · rw [hdomain, hdomain']
    decide

end Linting

end RuleLint
