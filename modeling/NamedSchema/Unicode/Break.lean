import NamedSchema.Unicode.Packed

/-!
# Boundaries in a text

The classes of code points that the boundaries between user-perceived characters, between words and
between sentences are found by. A code point that is in none of the classes of a kind is not listed.
-/
namespace NamedSchema.Unicode

/-- Classes by their names in loose spelling, as packed sets. -/
abbrev BreakTable := List (List String × String)

def BreakTable.class? (table : BreakTable) (name : String) : Option CodeSet :=
  (table.find? fun entry => entry.1.contains name).map fun entry => unpackSet entry.2

def graphemeBreaks : BreakTable :=
  [(["control", "cn"],
    "09111hCvB0d0BLe0EPh0B-s021o6BhfBXUf0HgbNBkfBCD03FGf7YLU5vD0DvHgDQf"),
   (["cr"],
    "d0"),
   (["extend", "ex"],
    "Y0DfIj6I7Bc10111110C8aBgkg0D56252113B30uqCraBq890o3181214Bb2Br8Ban1vBn010474036a1t0Bq010238090a
      1q021Bp041412230u130b1Bp0441140k1m510Bq011138072a1u0Br010c090B8030Bn012521371b1t0Bq02110321371
      b1s1Bp110238090a1t0C8040221080Ch026c7D2028b6C91r01010Bnd14115a1B390D63151121p142g3d02160f0Vv2z
      i3s2t1u1C0116802a90Bd210Dl1B20Dm2419062Gr120Bq0161010276920BgBd2bk3Bg942B68c1B0325Bo0113014Bo7
      21Eo21c16406031G6BvQc0G3B0C-u2Ed0D0vRa5D91zOk319B01Cg1Ig03040p150En1qhd0B67pa10Bc2Bg0232120B40
      C352121c080Bf0Bj012215110Ba180He02040TZg0X1fgfLe1St0H20El4BU621153B8240F51Rt3C14Jt1Cd5C6aBh3Dr
      0BmeB9021a2Bh32170Bt2B4417Bu0c1Bk8108320Cv2236020Et037l1Bp11010c090e634C30251020124210e1Cl7221
      0n0Ch02510201111Hb0236111r1Cl72011Da01027D50102314I3811Hl0a340Eg32140B09B8523809522Bec11G60121
      0G961510Cil261111Dq530111610C813010Kr1b1Bk452n0FH506eLG8b32CO04Br6BAo0Bv3Ch0b1TFb1ET1Bd2mQu435
      8726u3Ek2BzrBm4Bh80e0m41eBKg61g261114D40F06Ln0Bt3Ps3Hu1Hj0207150Oq6Dd6CVg4YDB0CvE0Hf"),
   (["l"],
    "EI0CvBGA0s"),
   (["lf"],
    "a0"),
   (["lv"],
    "BLA00r0r0r0r0r0r0r0r0r0r0r0r0r0r0r0r0r0r0r0r0r0r0r0r0r0r0r0r0r0r0r0r0r0r0r0r0r0r0r0r0r0r0r0r0r0
      r0r0r0r0r0r0r0r0r0r0r0r0r0r0r0r0r0r0r0r0r0r0r0r0r0r0r0r0r0r0r0r0r0r0r0r0r0r0r0r0r0r0r0r0r0r0r0
      r0r0r0r0r0r0r0r0r0r0r0r0r0r0r0r0r0r0r0r0r0r0r0r0r0r0r0r0r0r0r0r0r0r0r0r0r0r0r0r0r0r0r0r0r0r0r0
      r0r0r0r0r0r0r0r0r0r0r0r0r0r0r0r0r0r0r0r0r0r0r0r0r0r0r0r0r0r0r0r0r0r0r0r0r0r0r0r0r0r0r0r0r0r0r0
      r0r0r0r0r0r0r0r0r0r0r0r0r0r0r0r0r0r0r0r0r0r0r0r0r0r0r0r0r0r0r0r0r0r0r0r0r0r0r0r0r0r0r0r0r0r0r0
      r0r0r0r0r0r0r0r0r0r0r0r0r0r0r0r0r0r0r0r0r0r0r0r0r0r0r0r0r0r0r0r0r0r0r0r0r0r0r0r0r0r0r0r0r0r0r0
      r0r0r0r0r0r0r0r0r0r0r0r0r0r0r0r0r0r0r0r0r0r0r0r0r0r0r0r0r0r0r0r0r0r0r0r0r0r0r0r0r0r0r0r0r0r0r0
      r0r0r0r0r0r0r0r0r0r0r0r0r0r0r0r0r0r0r0r0r0r0r0r0r0r0r0r0r0r0r0r0r0r0r0r0r0r0r0r0r0r0r0r0r0r0r0
      r0r0r0r0r0r0r0r0r0r0r0r0r0r0r0r0r0r0r0r0r0r0r0r0"),
   (["lvt"],
    "BLA1q1q1q1q1q1q1q1q1q1q1q1q1q1q1q1q1q1q1q1q1q1q1q1q1q1q1q1q1q1q1q1q1q1q1q1q1q1q1q1q1q1q1q1q1q1q
      1q1q1q1q1q1q1q1q1q1q1q1q1q1q1q1q1q1q1q1q1q1q1q1q1q1q1q1q1q1q1q1q1q1q1q1q1q1q1q1q1q1q1q1q1q1q1q
      1q1q1q1q1q1q1q1q1q1q1q1q1q1q1q1q1q1q1q1q1q1q1q1q1q1q1q1q1q1q1q1q1q1q1q1q1q1q1q1q1q1q1q1q1q1q1q
      1q1q1q1q1q1q1q1q1q1q1q1q1q1q1q1q1q1q1q1q1q1q1q1q1q1q1q1q1q1q1q1q1q1q1q1q1q1q1q1q1q1q1q1q1q1q1q
      1q1q1q1q1q1q1q1q1q1q1q1q1q1q1q1q1q1q1q1q1q1q1q1q1q1q1q1q1q1q1q1q1q1q1q1q1q1q1q1q1q1q1q1q1q1q1q
      1q1q1q1q1q1q1q1q1q1q1q1q1q1q1q1q1q1q1q1q1q1q1q1q1q1q1q1q1q1q1q1q1q1q1q1q1q1q1q1q1q1q1q1q1q1q1q
      1q1q1q1q1q1q1q1q1q1q1q1q1q1q1q1q1q1q1q1q1q1q1q1q1q1q1q1q1q1q1q1q1q1q1q1q1q1q1q1q1q1q1q1q1q1q1q
      1q1q1q1q1q1q1q1q1q1q1q1q1q1q1q1q1q1q1q1q1q1q1q1q1q1q1q1q1q1q1q1q1q1q1q1q1q1q1q1q1q1q1q1q1q1q1q
      1q1q1q1q1q1q1q1q1q1q1q1q1q1q1q1q1q1q1q1q1q1q1q1q"),
   (["prepend", "pp"],
    "BQ05Gn0Bh0M01Cg0BDb0CAxe0f0Hk1Qd0BLd010K25Vs0Nr0"),
   (["regionalindicator", "ri"],
    "DyP6p"),
   (["spacingmark", "sm"],
    "CI30Bn0228311Bi1Br16121Bm0Bq2C20Bq28011Bl1Bs06121Di0113212Bk2Bt3Bt1Bq02011Be0e1Br15212Bl1Cc166j
      1Bv0Dv0Ea1Bv0Fh091p1Bc0BZh07711Kq3224115H01Bq010l5Eh0Bp3C00u041Bv02210Bl781Fb0l0BCZb120Co1BifE
      e0Bg0Bg14121Df121o0Et02150Hd1111110ZAj010Dv0Bd241Dj0o1Br0Bg290e0Ct231Fc2v1Br0132121l1Cl1f011D7
      28130Db160111020He16320Dh28110Dd011De070I5290Ho4117010Ee28340Ck0t1Bu0G903010G70e0Da07020Gl4411
      0Ku1c0Bg181QPa2DR4Bm"),
   (["t"],
    "EN8CnBRObBg"),
   (["v"],
    "EL0C7BRQ8mBFMs033"),
   (["zwj"],
    "IAd0")]

def wordBreaks : BreakTable :=
  [(["aletter", "le"],
    "C1p6pBf0a020105m1u1Ov6B1Dg41123106012101j1Ci1Ea8F51B523101B810D80BcBaB311D210f171a220f11ttCob0o
      B091405l409030no7a5n16gB9BqBl30i079ff47212l16103330g0d112e1a085412l16111111v310j2g8121l1611143
      0i0f1n0b7212l16111430u112f0h015321331101131323bm0Bk7121m1f30q21121u047121m191430u211f1h8121B82
      0g05282o55h3n181026Jp0Bv71B3r4IjB510502Ba1Kc132610132B8132B0132610132e1Bo132C2B5fgCl253Tb2g1p5
      Ca3a7hdiehec12FfCo742B1105C5auH1mHeBeh7Bmtd1aBbqB3B92aB32a5Ba22B931511305FvC0Il252B52527101010
      1u2Bk1610321633254c5216Dk0d0gcD5040291034601010131a235440hB8ZdBjBYmH46331cB510502Bn70gm9616161
      616161616Cg0Ol0Bl1G8Ba1CthvxS0BEcC3Bd2Ic3fa1kBegu2CfoGkkg12131mtBjeBhBu53011bramps7Bes0BgB8n21
      7Eka72c5252596161Bp6DitKz3cm4BgIY46c4BoD1B1LaiBv2BlB8bDk41E6B4p6pC5u35252522B3b1p1i111e2dB2DqC
      5BkIbs3BgBfvdt5B5at2B34714BaEtiB34B34B78Bjca1e16111a1e16113BjcJm9la7o51B918C55201Bb11302mam9uC
      1i11alap6pB6Bn61C00f3121sBas3sB371rrBlalaidhDeC8BnBidBidB3B6r9mHqB961g5Bosa08lBahBekrmcBkBp120
      dBcB0oqB3t0208B230cBfe3l010B3h1oj1Bv610131e197BeB67212l16111430i0c4u910201B510p010BcBki3k2uBfk
      110FoBeB93B4Bfk0BrBad0K7BbDkBvv72027111nf010Cu72B6g010s0aB770l0bBdj0iC8G7B0v81B4h0BhtDg6111B5l
      0p5111ve0nBbI4if01c1B1Ds0CfypD6DehG3CScD0fBBfh5pDyq5S6GVptBX2Ro7uhCehtiBfg3vk5iNgBcGjBvB0o2oBc
      Ca50C2cC0110TAsDa5c3879Fx6Ck1C6112021231b10161C01327161r131410361Kj2o1o1u1o1u1o1u1o1u1o17BZku6
      5I5BtEiBca6g0K1tiBbP4rH4t20Gfu1211162491H0613111e1G4BrC370BFk31q111020191310106040101012111020
      1010101011102316131310191g52141gTkp6p6p"),
   (["cr"],
    "d0"),
   (["doublequote", "dq"],
    "B20"),
   (["extend"],
    "Y0DfIj6I7Bc10111110C8aBgkg0D56252113B30uqCraBq890o3181214Bb2Br8Ban1B0Bm21h16a1t2Bo016212290a1q0
      22Bo014412230u130b2Bo0171212k1m512Bo016212272a1u0Br4321390B84Bn016121371b1t2Bo016121371b1f0c3B
      n116121390a1t2C60451017i1Bt026c7D2028b6C91r0101041Bhj115a1B390D4jn342122633db10a3Vv2zi3s2t1u1C
      0v90Bd210Dl1B20Dmb4bGr4Bp91s20BgBd2bk4BfgB68c2ucBodBgjEo21k406022G6BvQc0G3B0C-u2Ed0D0vRa5D91zO
      k319B01Cg1Ig03040n440Cj1Bihqhd0B67pcBc3BfdB40C3dc081Bd2Bi012215110B9451Hc711TZg0X1fgfLe1St0H20
      El4BU621153B8240F51Rt3C14Jt1Cd5C6aBh3Dq2BleB9021a3Bda70Bt2B4dg1Bc0c2Bgd8311Csb6020Etbl3Bn11621
      2290a12634C381020131410e1Cihn0ChjHb628r1CigDacD5eI0eHl511231011Ed62630s9B8613809aBefG67G7717Ci
      l1dDq530111610C241114Kr39110Bg634n0FH506eLG8hCO04Br6BAo01Bm73Ch0b1TFb1ET1Bd2mQu4358726u3Ek2Bzr
      Bm4Bh80e0m41eBKg61g261114D40F06Ln0Bt3Ps3Hu1Hj0207150Oq6Dd6CVg4YDB0CvE0Hf"),
   (["extendnumlet", "ex"],
    "Cv0H+f0f1j0BXOu1o2Hf0"),
   (["format", "fo"],
    "Fd0BLe0EPh0B-v1q4Bh419BXUf0Hp2NBkfBCD03FGf7YLU60"),
   (["hebrewletter", "hl"],
    "BOgq43BzJa0191c1410111119"),
   (["katakana", "ka"],
    "MBh4D513Cq13HgfGgBe1CnBTAeBnBMCi3161110Iv2Bi0e3"),
   (["lf"],
    "a0"),
   (["midletter", "ml"],
    "Bq0Ds0Wf0On0Ek0GRi0BXPb0C10G40"),
   (["midnum", "mn"],
    "Bc0e0w20Qa0E21Cu0Mb0GCb0BXQb030Fn0e0"),
   (["midnumlet", "mb"],
    "Be0H-91a0BXRd0Fk060"),
   (["newline", "nl"],
    "b1Do0Hz21"),
   (["numeric", "nu"],
    "Bg9BO65Cq910Dh0i9G69G61Cg0E39Dm9Dm9Dm9Dm9Dm9Dm9Dm9Dm9Dm9D09Dm9C69Im9C69Bw69B69Jc9E0aF5969Fm9Cm9
      E6969BCO69V69B69G69m9Cm9Mm9UYm9BM69CE6969Ys9Cd0f0B29Bs9Eg9Im9Km9Dm9Lm9D696jCc9N69D69Um9Cm9Hm9C
      69Bm9L69QOm9CJ69Cm9E69Qm9Xxm9CWkBhCK09N69Pm9Hn9wl9EUm9"),
   (["regionalindicator", "ri"],
    "DyP6p"),
   (["singlequote", "sq"],
    "B70"),
   (["wsegspace"],
    "B00FSv0CLv612Ck0Dz00"),
   (["zwj"],
    "IAd0")]

def sentenceBreaks : BreakTable :=
  [(["aterm", "at"],
    "Be0H-l0BXRd0Fr0"),
   (["close", "cl"],
    "B2042Bh010t010Bd0f0DTu3Bwt1CLr7p1a1Bm1e1Tp3t1BBg57dCf1v9MjlBv3B01BA2de129o0i7Nb92712BTIu1Gn1sf2
      1g5F91Bh010t0101111BzYi2"),
   (["cr"],
    "d0"),
   (["extend", "ex"],
    "Y0DfIj6I7Bc10111110C8aBgkg0D56252113B30uqCraBq890o3181214Bb2Br8Ban1B0Bm21h16a1t2Bo016212290a1q0
      22Bo014412230u130b2Bo0171212k1m512Bo016212272a1u0Br4321390B84Bn016121371b1t2Bo016121371b1f0c3B
      n116121390a1t2C60451017i1Bt026c7D2028b6C91r0101041Bhj115a1B390D4jn342122633db10a3Vv2zi3s2t1u1C
      0v90Bd210Dl1B20Dmb4bGr4Bp91s20BgBd2bk4BfgB68c2ucBodBgjEo21k406022G6BvQc1G2B0C-u2Ed0D0vRa5D91zO
      k319B01Cg1Ig03040n440Cj1Bihqhd0B67pcBc3BfdB40C3dc081Bd2Bi012215110B9451Hc711TZg0X1fgfLe1St0H20
      El4BU621153B8240F51Rt3C14Jt1Cd5C6aBh3Dq2BleB9021a3Bda70Bt2B4dg1Bc0c2Bgd8311Csb6020Etbl3Bn11621
      2290a12634C381020131410e1Cihn0ChjHb628r1CigDacD5eI0eHl511231011Ed62630s9B8613809aBefG67G7717Ci
      l1dDq530111610C241114Kr39110Bg634n0FH506eLG8hCO04Br6BAo01Bm73Ch0b1TFb1ET1Bd2mQu4358726u3Ek2Bzr
      Bm4Bh80e0m41eBKg61g261114D40F06Ln0Bt3Ps3Hu1Hj0207150Oq6Dd6YFWlCvE0Hf"),
   (["format", "fo"],
    "Fd0BLe0Hi0EHu0B-s021q4Bh419BXUf0Hp2NBkfBCD03FGf7YLU60"),
   (["lf"],
    "a0"),
   (["lower", "lo"],
    "D1pBf0a040B4n1710101010101010101010101010101010101010101010101010101011101010101010101110101010
      1010101010101010101010101010101010101020101220102031402032202010102011102030102122602020101010
      1010101011101010101010101011201030101010101010101010101010101010101010101010101010101010101620
      2110401010101C42B271u4Ec0103023i0rB21132101010101010101010101014102021BjBf10101010101010101010
      1010101010101090101010101010101010101010101010101010101010101010101020101010101011101010101010
      101010101010101010101010101010101010101010101010101010101010101010101010101010101010BgB8Cxj0Xr
      5CE2810DlFvC1010101010101010101010101010101010101010101010101010101010101010101010101010101010
      1010101010101010101010101010101010101010101010101010101010101010101810101010101010101010101010
      10101010101010101010101010101010101010101010101010101010101010101010101885a78785a7878d27878784
      11603211832187a211Dp0d0gcDd03130r04040218340B1f40wbpBw6Bf1031101010401117301010101010101010101
      0101010101010101010101010101010101010101010101010101010101010101010101010101011701040cB51050+I
      j010101010101010101010101010101010101010101010j010101010101010101010101012E5010101010101210101
      0101010101010101010101010101010101010101010101010101010191010201010101040102012101010101010101
      0101050501010101010101040102010101010101010l31012ZlBa1d6CfTw06c4BB9pBGdB7E8B3Era1e1611O30221B9
      18BI5BiDtlCZqvVM0vBroZK6pq61hqpq310161aqpqpqpqpqpqpqpqpqrso15qo15qo15qo15qo1510BZk91j65I5BtCFk
      B1"),
   (["numeric", "nu"],
    "Bg9BO65Cq911Dg0i9G69G61Cg0E39Dm9Dm9Dm9Dm9Dm9Dm9Dm9Dm9Dm9D09Dm9C69Im9C69Bw69B69Jc9E0aF5969Fm9Cm9
      E6969BCO69V69B69G69m9Cm9Mm9UYm9BM69CE6969Ys9Cd0f0B29Bs9Eg9Im9Km9Dm9Lm9D696jCc9N69D69Um9Cm9Hm9C
      69Bm9L69QOm9CJ69Cm9E69Qm9Xxm9CWkBhCK09N69Pm9Hn9wl9EUm9"),
   (["oletter", "le"],
    "Nr043Gg1B366bq010E50P40Dmq44BcBaB311D210f171a220g01ttCob0oB091405l409030no7a5n16gB9BqBl30i079ff
      47212l16103330g0d112e1a085412l16111111v310j2g8121l16111430i0f1n0b7212l16111430u112f0h015321331
      101131323bm0Bk7121m1f30q21121u047121m191430u211f1h8121B820g05282o55h3n181026BqBf11c6Bq110141n1
      01911902410l3B00Bv71B3r4DjBak0g5433031724cc0C1Ba2Kb132610132B8132B0132610132e1Bo132C2B5fDhTb2g
      1p5Ca3a7hdiehec12fBjB3040C3Co742B1105C5auBht24bBb4pBmm9BkCi0CtBeh7Bmtd1aBbqB3B92aB3iBa22B93151
      130BBq3C7223Cz7Bn70gm9616161616161616Cg0Ol2p874244Cl621Cp135Ba1CthvBgfQ0GNvC0VUcC3Bd2Ic3fa1C20
      g0B0CfB78D8060D703612131mtBjeBhBu53011bramps7Bes0g419a41B8n217km303Bh1031242010o22a72c52525961
      6EhB2tKz3cm4BgII4Ld2D9C30191c141011111DbB1LaiBv2BlB8bDk41E6D9Bn2u35252522B3b1p1i111e2dB2DqC5Bk
      Ibs3BgBfvdt5B5at2B34714DqCdD2B78BjCsBjcJm9la7p1Dt5201Bb11302mam9uC1i11alap6pB6Bn61C00f3121sBas
      3sB371rrBlalaidhDeC8FnB3B65v0IgB961g5Bosa08lBahBekrmcBkBp120dBcB0oqB3t0208B230cBfe3l010B3h1oj1
      Bv610131e197BeB67212l16111430i0c4u910201B510p010BcBki3k2uBfk110FoBeB93B4Bfk0BrBad0C7qB56FpBbGj
      72027111nf010Cu72B6g010s0aB770l0bBdj0iC8G7B0v81B4h0BhtDg6111B5l0p5111ve0nBbI4if01c1B1Ds0CfypD6
      DehG3CScD0fBBfh5pDyq5S6GVptBX2Ro7uhCehtiBfg3vk5iNgBcMjCa50C2cC0110e49HGlB9vD1DiIPt316111J2f0t2
      20e38MbCI4Da5c3879ITg0PlBca6g0K1tiBbP4rH4t20Gfu1211162491H0613111e1G4E60BFk31q1110201913101060
      401010121110201010101011102316131310191g52141gEK4BJWvB0EIt2FUd2HJgfTdCN2QtBP2Ewa5IJ9"),
   (["scontinue", "sc"],
    "Bc1c1w20Ou0Fe1Pa0EA9050CAa1D-c0BTQe111s1t12120a0F81c1C80"),
   (["sep", "se"],
    "E50Hz21"),
   (["sp"],
    "9011j0Dv0FOv0CLvaB40Bf0Dz00"),
   (["sterm", "st"],
    "B10t0BK90Ej2Fk0Bb2Hm0Bt01031J51BX41Ym041Y50G61Et1Bd050Jq1L23F21a121t2Fr1C11zs192DFf2Ji0d0m1Nd0z
      Hs0Ie1H3030Lu1Cm1Cv0Eo1Ej2Eg1Hp0UR6021Bv1F90t0C10CXk1BHt4Bc3Ft1Dl3Dv2E1160g1Co111Dc0Ja1Dl1Ll15
      eD91Hp2Q5010Hr1Cn1N41Vk1Ca1SZ91E50C11b0R91J80TQ60HP80"),
   (["upper", "up"],
    "C1pD5m16B10101010101010101010101010101010101010101010101010101010201010101010101020101010101010
      1010101010101010101010101010101011101031101112231112311110101110201112101130711111101010101010
      1010201010101010101010211012101010101010101010101010101010101010101010101010101010101071112013
      10101010J10103080601210111g18B30223010101010101010101010105020112BiBg0101010101010101010101010
      1010101090101010101010101010101010101010101010101010101010101011101010101010201010101010101010
      1010101010101010101010101010101010101010101010101010101010101010101010101010102B5Cw9B51050WiCl
      CEj0Lm0101010101010101010101010101010101010101010101010101010101010101010101010101010101010101
      0101010101010101010101010101010101010101010101010101010101010901010101010101010101010101010101
      010101010101010101010101010101010101010101010101010101010101010109785a78785b010101087o7878784b
      4b3c4b4I5040322220346010101323a150qfj0ZipBZgBfBg0122010101310208210101010101010101010101010101
      010101010101010101010101010101010101010101010101010101010101010101010801040+Kd0101010101010101
      01010101010101010101010101010j010101010101010101010101010E701010101010103010101010101010101010
      1010101010101010101010101010101010101010a01011101010104010201030101010101010101010141410101010
      1010101310111010101010101010o0VZbpBG5B7E8B3Esa1e1611BXaBiEtlCZqvVM0vC0oZK7pqpqpq01120212317qpq
      1132716r113141036rpqpqpqpqpqpuoB1oB1oB1oB1oB10EJlB1CAep6p6p")]

end NamedSchema.Unicode
