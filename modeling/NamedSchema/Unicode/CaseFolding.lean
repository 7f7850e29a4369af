import NamedSchema.Unicode.Packed

/-!
# Simple case folding

The classes of code points that fold to the same code point. A class is packed as its size, the
distance of its first member from that of the class before, and the distances between its members.
-/
namespace NamedSchema.Unicode

def foldingText : String :=
  "2C1B021B021B021B021B021B021B021B021B021B031B0IFv21B021B021B021B021B021B021B031B0Ic21B021B021
    B021B021B021B021B03CrX7B02bB021B021B021B021B031B0IC621B021B021B021B021B021B021B021B021B021B0
    21B021B021B021B021B021B021B022B021B021B021B021B021B021B021HNv2B0Dp21122122122122122122122122
    12212212212212212212212212212212212212212212212412212212312212212212212212212212312212212212
    2122122122122122122122122122122122122122122122122122122123122122123G321Gi21122122Ge21122Gd21
    Gd21123Cf21Ga21Gb21122Gd21Gf21D121Gj21Gh21122F321BJS121Gj21Gl21E221Gm21122122122Gq21122Gq231
    22Gq21122Gp21Gp21122122Gr21124123Bo351133113311231221221221221221221221231221221221221221221
    22122133112312412212212212212212212212212212212212212212212212212212212212412212212212212212
    2122122128KRb21123KR821KRv21KRv21123C521C721122122122122122KQv21KQs21KQu2aBJKf25BJKb23BJL721
    BJJ821BJK424BJK421KPn21BJK125KPt2cKP725BJK325BJJa2mBJIl21BJIi4F7CkB0HA52Bb122124125E221E221E
    222Dk27B622B521B521B522C022Bv21Bv21HC321B031B0u21B021B031B0C021B021B041B0pB332B0Bm21B022B021
    B021B031B0m31B0Bg32v121B021B031B0f21B021B031B0HKt21B021B025HBj2v8291221221221221221221221221
    22122122124725123126Cg21Cg21Cg21Cg21Cg21Cg21Cg21Cg21Cg21Cg21Cg21Cg21Cg21Cg21Cg21Cg21B021B031
    B0GCe21B031B0GCd21B021B021B021B021B021B021B021B021B031B0GC421B021B031B0GC241B0GC2121B021B021
    B021B021B021B021B031B0GBs21B021B021B021B021B02Bh1321GB42212212212212212212212212212212212212
    212212212a122122122122122122122122122122122122122122122122122122122122122122122122122122122f
    21122122122122122122123122122122122122122122122122122122122122122122122122122122122122122122
    122122122122122122122122122122122122122122122122122122122122122122122122123Bg21Bg21Bg21Bg21B
    g21Bg21Bg21Bg21Bg21Bg21Bg21Bg21Bg21Bg21Bg21Bg21Bg21Bg21Bg21Bg21Bg21Bg21Bg21Bg21Bg21Bg21Bg21B
    g21Bg21Bg21Bg21Bg21Bg21Bg21Bg21Bg21Bg21Bg2CwaHD021HD021HD021HD021HD021HD021HD021HD021HD021HD
    021HD021HD021HD021HD021HD021HD021HD021HD021HD021HD021HD021HD021HD021HD021HD021HD021HD021HD02
    1HD021HD021HD021HD021HD021HD021HD021HD021HD021HD022HD026HD023C+021C+021C+021C+021C+021C+021C
    +021C+021C+021C+021C+021C+021C+021C+021C+021C+021C+021C+021C+021C+021C+021C+021C+021C+021C+0
    21C+021C+021C+021C+021C+021C+021C+021C+021C+021C+021C+021C+021C+021C+021C+021C+021C+021C+023
    C+021C+021C+02V1BF+g21BF+g21BF+g21BF+g21BF+g21BF+g21BF+g21BF+g21BF+g21BF+g21BF+g21BF+g21BF+g
    21BF+g21BF+g21BF+g21BF+g21BF+g21BF+g21BF+g21BF+g21BF+g21BF+g21BF+g21BF+g21BF+g21BF+g21BF+g21
    BF+g21BF+g21BF+g21BF+g21BF+g21BF+g21BF+g21BF+g21BF+g21BF+g21BF+g21BF+g21BF+g21BF+g21BF+g21BF
    +g21BF+g21BF+g21BF+g21BF+g21BF+g21BF+g21BF+g21BF+g21BF+g21BF+g21BF+g21BF+g21BF+g21BF+g21BF+g
    21BF+g21BF+g21BF+g21BF+g21BF+g21BF+g21BF+g21BF+g21BF+g21BF+g21BF+g21BF+g21BF+g21BF+g21BF+g21
    BF+g21BF+g21BF+g21BF+g21BF+g21BF+g2182182182182182183CEjBCO212112HgBCQ424DX62hBCRo2Di1221221
    22122122122122122122122122122122122122122122122122122122122122122122122122122122122122122122
    1221221221221221221221221221221221221221221321Bq22122122122122122122122122122122122122122122
    12212212212212212212212212212212212c12212212212212212212212212212212212212212212212212212212
    21221221221221221221221221221221221221221221221221221221221221221221221221221221221221228218
    2182182182182182182982182182182182182b821821821821821821821829821821821821821821821829821821
    82182182182c822822822829821821821821821821821829Ca21Ca21Cm21Cm21Cm21Cm21D421D421E021E021Dg21
    Dg21Du21Du2382182182182182182182182982182182182182182182182982182182182182182182182982182292
    g92d82182f82182472e92Jvs2Beg21g21g21g21g21g21g21g21g21g21g21g21g21g21g21g2k12Zjq21q21q21q21q
    21q21q21q21q21q21q21q21q21q21q21q21q21q21q21q21q21q21q21q21q21q2BZhBg21Bg21Bg21Bg21Bg21Bg21B
    g21Bg21Bg21Bg21Bg21Bg21Bg21Bg21Bg21Bg21Bg21Bg21Bg21Bg21Bg21Bg21Bg21Bg21Bg21Bg21Bg21Bg21Bg21B
    g21Bg21Bg21Bg21Bg21Bg21Bg21Bg21Bg21Bg21Bg21Bg21Bg21Bg21Bg21Bg21Bg21Bg21Bg2Bh1271221221271231
    2b122122122122122122122122122122122122122122122122122122122122122122122122122122122122122122
    12212212212212212212212212212212212212212212212212212212212912212512+Ke122122122122124122122
    12212212212212212212212212212212212212212212k12212212212212212212212212212212212212212E81221
    22122122122122124122122122122122122122122122122122122122122122122122122122122122122122122122
    12212212212212212b122123122122122122125125122122Bg2212212212212212212212212212212bz021122122
    12212212212212212512212312212212212212212212212r12UYg12BAsB021B021B021B021B021B021B021B021B0
    21B021B021B021B021B021B021B021B021B021B021B021B021B021B021B021B021B02BG6B821B821B821B821B821
    B821B821B821B821B821B821B821B821B821B821B821B821B821B821B821B821B821B821B821B821B821B821B821
    B821B821B821B821B821B821B821B821B821B821B821B82E9B821B821B821B821B821B821B821B821B821B821B82
    1B821B821B821B821B821B821B821B821B821B821B821B821B821B821B821B821B821B821B821B821B821B821B82
    1B821B82EtB721B721B721B721B721B721B721B721B721B721B722B721B721B721B721B721B721B721B721B721B7
    21B721B721B721B721B722B721B721B721B721B721B721B722B721B72BXbC021C021C021C021C021C021C021C021
    C021C021C021C021C021C021C021C021C021C021C021C021C021C021C021C021C021C021C021C021C021C021C021
    C021C021C021C021C021C021C021C021C021C021C021C021C021C021C021C021C021C021C021C02EuB021B021B02
    1B021B021B021B021B021B021B021B021B021B021B021B021B021B021B021B021B021B021B02CZrB021B021B021B
    021B021B021B021B021B021B021B021B021B021B021B021B021B021B021B021B021B021B021B021B021B021B021B
    021B021B021B021B021B02VM1B021B021B021B021B021B021B021B021B021B021B021B021B021B021B021B021B02
    1B021B021B021B021B021B021B021B021B021B021B021B021B021B021B02C1r21r21r21r21r21r21r21r21r21r21
    r21r21r21r21r21r21r21r21r21r21r21r21r21r21r2+S8B221B221B221B221B221B221B221B221B221B221B221B
    221B221B221B221B221B221B221B221B221B221B221B221B221B221B221B221B221B221B221B221B221B221B2"

/-- The members after `last`, by their distances. -/
def membersFrom (last : Nat) : List Nat → List Nat
  | [] => []
  | d :: rest => (last + d) :: membersFrom (last + d) rest

/-- The classes of a list of numbers; `fuel` bounds their count. -/
def classesFrom : Nat → Nat → List Nat → List (List Nat)
  | 0, _, _ => []
  | fuel + 1, previous, size :: distance :: rest =>
    let first := previous + distance
    (first :: membersFrom first (rest.take (size - 1))) :: classesFrom fuel first (rest.drop (size - 1))
  | _ + 1, _, _ => []

/-- The classes with more than one member, each in order. -/
def foldingClasses : List (List Nat) :=
  let numbers := unpackNumbers foldingText
  classesFrom numbers.length 0 numbers

/-- The set with every code point that folds like one of its members. -/
def CodeSet.foldCase (s : CodeSet) : CodeSet :=
  s.union (CodeSet.ofRanges ((foldingClasses.filter fun members => members.any s.contains).flatMap
    fun members => members.map fun c => ⟨c, c⟩))

end NamedSchema.Unicode
