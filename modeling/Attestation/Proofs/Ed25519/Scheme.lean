import Attestation.Proofs.Ed25519.Encoding

/-!
A signature verifies under the public key of the seed that made it.
-/

namespace Attestation.Ed25519

lemma length_publicBytes (seed : List UInt8) : (publicBytes seed).length = 32 :=
  Point.length_encode _

lemma length_sign (seed message : List UInt8) : (sign seed message).length = 64 := by
  unfold sign
  dsimp only
  rw [List.length_append, Point.length_encode, length_littleEndian]

/-- The public key of a seed, as a point of the group. -/
noncomputable def publicPoint (seed : List UInt8) : Group := secretScalar seed • Point.generator

lemma represents_publicPoint (seed : List UInt8) :
    (Point.base.times (secretScalar seed)).Represents (publicPoint seed) :=
  Point.represents_base.times (secretScalar seed)

lemma decode?_publicBytes (seed : List UInt8) :
    ∃ q, Point.decode? (publicBytes seed) = some q ∧ q.Represents (publicPoint seed) :=
  (represents_publicPoint seed).decode?_encode

lemma order_pos : 0 < order := by decide

lemma order_lt : order < 256 ^ 32 := by decide

/-- A multiple of the generator depends on the factor modulo the order. -/
lemma mod_order_nsmul (n : ℕ) : (n % order) • Point.generator = n • Point.generator := by
  have h := congrArg (· • Point.generator) (Nat.mod_add_div n order)
  simp only [add_nsmul, mul_comm order, mul_nsmul', Point.order_nsmul_generator, nsmul_zero,
    add_zero] at h
  exact h

/-- The equation of a signature: the second half undoes the hash's multiple of the key. -/
lemma response_eq (r k a : ℕ) :
    ((r + k * a) % order) • Point.generator + k • -(a • Point.generator) =
      r • Point.generator := by
  rw [mod_order_nsmul, add_nsmul, mul_nsmul', neg_nsmul, add_neg_cancel_right]

/-- A signature whose two halves satisfy the equation verifies. -/
lemma verify_eq_valid {key message point : List UInt8} {s : ℕ} {q : Point}
    (hdecode : Point.decode? key = some q) (hpoint : point.length = 32) (hs : s < order)
    (h : ((Point.base.times s).add
      (q.neg.times (hashScalar (point ++ key ++ message)))).encode = point) :
    verify key message (point ++ littleEndian 32 s) = .valid := by
  have htake : (point ++ littleEndian 32 s).take 32 = point := List.take_left' hpoint
  have hdrop : (point ++ littleEndian 32 s).drop 32 = littleEndian 32 s :=
    List.drop_left' hpoint
  have hread : ofLittleEndian (littleEndian 32 s) = s :=
    ofLittleEndian_littleEndian (hs.trans order_lt)
  simp only [verify, htake, hdrop, hread, hdecode, h, not_le.2 hs, if_false, if_true]

/-- **A signature verifies under the public key of its seed.** -/
theorem verify_sign (seed message : List UInt8) :
    verify (publicBytes seed) message (sign seed message) = .valid := by
  obtain ⟨q, hdecode, hq⟩ := decode?_publicBytes seed
  unfold sign
  dsimp only
  generalize hashScalar (noncePrefix seed ++ message) = r
  refine verify_eq_valid hdecode (Point.length_encode _) (Nat.mod_lt _ order_pos) ?_
  generalize hashScalar ((Point.base.times r).encode ++ publicBytes seed ++ message) = k
  have hresponse := (Point.represents_base.times ((r + k * secretScalar seed) % order)).add
    (hq.neg.times k)
  rw [publicPoint, response_eq] at hresponse
  rw [hresponse.encode_eq, (Point.represents_base.times r).encode_eq]

end Attestation.Ed25519
