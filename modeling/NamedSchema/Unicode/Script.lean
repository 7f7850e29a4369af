import NamedSchema.Unicode.Packed

/-!
# Scripts

The code points of each script, and of each script together with the code points other scripts
share with it.
-/
namespace NamedSchema.Unicode

/-- The names of each script in loose spelling, and its packed set. -/
def scripts : List (List String × String) :=
  [(["adlm", "adlam"],
    "DwI0Cb4941"),
   (["aghb", "caucasianalbanian"],
    "CBJgBjb0"),
   (["ahom"],
    "CFY0q2e4m"),
   (["arab", "arabic"],
    "BQ04151d121v19bp1Db1B1CgBfHgB15Ca1sBySgPd2EfB0fDg41E6Dx3uC3588B15BXY031q111020191310106040
      1010121110201010101011102316131310191g52141gBk1"),
   (["armi", "imperialaramaic"],
    "CCC0l18"),
   (["armn", "armenian"],
    "BJhB52Bh22BzM34"),
   (["avst", "avestan"],
    "CCY0Bl36"),
   (["bali", "balinese"],
    "GY0Cc1Bh"),
   (["bamu", "bamum"],
    "BJV0CnBQI8Ro"),
   (["bass", "bassavah"],
    "CwWgt25"),
   (["batk", "batak"],
    "G+0Bj83"),
   (["beng", "bengali"],
    "CM0317212l1610332821238041142o"),
   (["bhks", "bhaiksuki"],
    "CHA081Bc1das"),
   (["bopo", "bopomofo"],
    "Xa1LQpBaDgv"),
   (["brah", "brahmi"],
    "CEA0Cd4B390"),
   (["brai", "braille"],
    "KA0Hv"),
   (["bugi", "buginese"],
    "GQ0r21"),
   (["buhd", "buhid"],
    "Fw0j"),
   (["cakm", "chakma"],
    "CEI0Bk1h"),
   (["cans", "canadianaboriginal"],
    "FA0TvRgC5CANqf"),
   (["cari", "carian"],
    "CAV0Bg"),
   (["cham"],
    "BKQ0Bm9d2923"),
   (["cher", "cherokee"],
    "Ez0Cl25BFxiCf"),
   (["chrs", "chorasmian"],
    "CDzgr"),
   (["copt", "coptic", "qaac"],
    "-2dKEgDj56"),
   (["cpmn", "cyprominoan"],
    "CLygD2"),
   (["cprt", "cypriot"],
    "CCA05201Bb113020"),
   (["cyrl", "cyrillic"],
    "BA0E42F8FwgaF00Cc0ED7v+C0CvVye1BYQ0BtB10"),
   (["deva", "devanagari"],
    "CI0Cg4e2pBHx0vyQ09"),
   (["diak", "divesakuru"],
    "CGI062027111t112b99"),
   (["dogr", "dogra"],
    "CGA0Br"),
   (["dsrt", "deseret"],
    "CBA0Cf"),
   (["dupl", "duployan"],
    "DPA0Da5c387923"),
   (["egyp", "egyptianhieroglyphs"],
    "CMA0BClaDyq"),
   (["elba", "elbasan"],
    "CBI0B7"),
   (["elym", "elymaic"],
    "CD-0m"),
   (["ethi", "ethiopic"],
    "EQ0C8132610132B8132B0132610132e1Bo132C22v3pGP6m9616161616161616-J2525259616CPFh613111e"),
   (["geor", "georgian"],
    "EF0B510502Ba13CygBa22EC0B51050"),
   (["glag", "glagolitic"],
    "LA0CvDMz061g261114"),
   (["gong", "gunjalagondi"],
    "CHL05111B4111579"),
   (["gonm", "masaramgondi"],
    "CHI06111Bb30111889"),
   (["goth", "gothic"],
    "CAZgq"),
   (["gran", "grantha"],
    "CEY0317212l1611142821222060562634"),
   (["grek", "greek"],
    "xg3122310401012101j1BuefGJ64Bi444Ck0K0l252B525271010101u2Bk1e1d251i2218J70BCRu0VOqCeh0BUCv
      C5"),
   (["gujr", "gujarati"],
    "CU1218121l16111429121220f32b76"),
   (["guru", "gurmukhi"],
    "CQ1215412l16111111201441223073107g"),
   (["hang", "hangul"],
    "EI0HvHRe1I1CtDhuC1uzX1sU3Kz3cm4BgJz4u35252522"),
   (["hani", "han"],
    "LU0p1CocGlBf010p8e3+4GNvC0UPvWI0Ld2D9zI81c6BEA9BJWvB0EIt2FUd2HJgfTdCN2QtBP2Ewa5IJ9"),
   (["hano", "hanunoo"],
    "FZ0k"),
   (["hatr", "hatran"],
    "CCH0i1154"),
   (["hebr", "hebrew"],
    "BMhBm8q45BzJ8p1410111119"),
   (["hira", "hiragana"],
    "MC1Cl62C-x1Iui0t2QFd0"),
   (["hluw", "anatolianhieroglyphs"],
    "CRA0S6"),
   (["hmng", "pahawhhmong"],
    "CwY0C5a9161k5i"),
   (["hmnp", "nyiakengpuachuehmong"],
    "DYI0Bc3d2941"),
   (["hung", "oldhungarian"],
    "CDE0BidBi75"),
   (["ital", "olditalic"],
    "CAY0B392"),
   (["java", "javanese"],
    "BKM0Cd2941"),
   (["kali", "kayahli"],
    "BKI0Bd10"),
   (["kana", "katakana"],
    "MF1Cp22HgfGgBe1CnBTAe91BcBMCi3161110Iv2Bi0e3"),
   (["kawi"],
    "CHY0g1B83s"),
   (["khar", "kharoshthi"],
    "CCQ031157121s224978"),
   (["khmr", "khmer"],
    "Fy0Ct2969P6v"),
   (["khoj", "khojki"],
    "CEQ0h1Be"),
   (["kits", "khitansmallscript"],
    "Cx-40GYrOlB90"),
   (["knda", "kannada"],
    "DE0c121m19142812137152132912"),
   (["kthi", "kaithi"],
    "CEE0C2a0"),
   (["lana", "taitham"],
    "GR0Bu1s2a696d"),
   (["laoo", "lao"],
    "DU1110141n101m2410161923"),
   (["latn", "latin"],
    "C1p6pBf0f05m1u1O0B74GQrB56Bg535c1C5C1HvLh0d0gcEd160r0hB8CWnv+V2D53ChkeZgBa1813Tym6BAqp6pCB
      551B918BVw5u65"),
   (["lepc", "lepcha"],
    "HA0Bn3e32"),
   (["limb", "limbu"],
    "GI0u1b4b403b"),
   (["lina", "lineara"],
    "CBQ0Jm9la7"),
   (["linb", "linearb"],
    "CAA0b1p1i111e2dB2Dq"),
   (["lisu"],
    "BJGgBf+Vg0"),
   (["lyci", "lycian"],
    "CAU0s"),
   (["lydi", "lydian"],
    "CCJ0p50"),
   (["mahj", "mahajani"],
    "CEKgB6"),
   (["maka", "makasar"],
    "CHX0o"),
   (["mand", "mandaic"],
    "CC0r20"),
   (["mani", "manichaean"],
    "CCW0B64b"),
   (["marc", "marchen"],
    "CHDgv2l1d"),
   (["medf", "medefaidrin"],
    "CxS0Cq"),
   (["mend", "mendekikakui"],
    "DwA0G42f"),
   (["merc", "meroiticcursive"],
    "CCN0n4j2Bd"),
   (["mero", "meroitichieroglyphs"],
    "CCM0v"),
   (["mlym", "malayalam"],
    "DI0c121Bi12154f2p"),
   (["modi"],
    "CFQ0C4b9"),
   (["mong", "mongolian"],
    "GA01201j6Co7BaB-Nlc"),
   (["mroo", "mro"],
    "CwS0u1941"),
   (["mtei", "meeteimayek"],
    "BKX0mG9Bd29"),
   (["mult", "multani"],
    "CEU0610131e1a"),
   (["mymr", "myanmar"],
    "EA0EvBGK0uD1vxCgj"),
   (["nagm", "nagmundari"],
    "DZGgB9"),
   (["nand", "nandinagari"],
    "CGN072Bd2a"),
   (["narb", "oldnortharabian"],
    "CCU0v"),
   (["nbat", "nabataean"],
    "CCE0u88"),
   (["newa"],
    "CFA0Cr14"),
   (["nkoo", "nko"],
    "B+0Bq22"),
   (["nshu", "nushu"],
    "Cx-10QMeMb"),
   (["ogam", "ogham"],
    "FU0s"),
   (["olck", "olchiki"],
    "HCgBf"),
   (["orkh", "oldturkic"],
    "CDA0C8"),
   (["orya", "oriya"],
    "CY1217212l1611142821227241142h"),
   (["osge", "osage"],
    "CBFgB34B3"),
   (["osma", "osmanya"],
    "CBE0t29"),
   (["ougr", "olduyghur"],
    "CDxgp"),
   (["palm", "palmyrene"],
    "CCD0v"),
   (["pauc", "paucinhau"],
    "CGW0Bo"),
   (["perm", "oldpermic"],
    "CAwgBa"),
   (["phag", "phagspa"],
    "BKC0Bn"),
   (["phli", "inscriptionalpahlavi"],
    "CCx0i57"),
   (["phlp", "psalterpahlavi"],
    "CCy0h73c6"),
   (["phnx", "phoenician"],
    "CCI0r30"),
   (["plrd", "miao"],
    "CxY0Ca4Bo7g"),
   (["prti", "inscriptionalparthian"],
    "CCw0l27"),
   (["rjng", "rejang"],
    "BKJgB3b0"),
   (["rohg", "hanifirohingya"],
    "CDI0B789"),
   (["runr", "runic"],
    "FV0Ca3a"),
   (["samr", "samaritan"],
    "CA0Bd2e"),
   (["sarb", "oldsoutharabian"],
    "CCT0v"),
   (["saur", "saurashtra"],
    "BKE0C58b"),
   (["sgnw", "signwriting"],
    "DWA0Ubf41e"),
   (["shaw", "shavian"],
    "CBCgBf"),
   (["shrd", "sharada"],
    "CEM0CvCM07"),
   (["sidd", "siddham"],
    "CFM0Bl2B5"),
   (["sind", "khudawadi"],
    "CEVgBq59"),
   (["sinh", "sinhala"],
    "DM121h3n181026304510176922CA-cj"),
   (["sogd", "sogdian"],
    "CDZgB9"),
   (["sogo", "oldsogdian"],
    "CDY0B7"),
   (["sora", "sorasompeng"],
    "CEGgo79"),
   (["soyo", "soyombo"],
    "CGSgCi"),
   (["sund", "sundanese"],
    "Gy0BvI07"),
   (["sylo", "sylotinagri"],
    "BKA0Bc"),
   (["syrc", "syriac"],
    "BY0d1Br22Iga"),
   (["tagb", "tagbanwa"],
    "Fx0c1211"),
   (["takr", "takri"],
    "CFU0Bp69"),
   (["tale", "taile"],
    "GKgt24"),
   (["talu", "newtailue"],
    "GM0Bb4p6a31"),
   (["taml", "tamil"],
    "Cy2115321331101131323b4432132060ekCE+5Bhd0"),
   (["tang", "tangut"],
    "Cx-00vGXvQ0uD1Di"),
   (["tavt", "taiviet"],
    "BKU0C2o4"),
   (["telu", "telugu"],
    "DA0c121m1f281213711211232978"),
   (["tfng", "tifinagh"],
    "LJgBn71e0"),
   (["tglg", "tagalog"],
    "FY0l90"),
   (["thaa", "thaana"],
    "By0Bh"),
   (["thai"],
    "DQ1Bp5r"),
   (["tibt", "tibetan"],
    "DY0C71B34B61B31e1641"),
   (["tirh", "tirhuta"],
    "CFE0C789"),
   (["tnsa", "tangsa"],
    "CwTgCe19"),
   (["toto"],
    "DYUgu"),
   (["ugar", "ugaritic"],
    "CAy0t10"),
   (["vaii", "vai"],
    "BJI0Jb"),
   (["vith", "vithkuqi"],
    "CBLga1e16111a1e1611"),
   (["wara", "warangciti"],
    "CGF0Cic0"),
   (["wcho", "wancho"],
    "DYW0Bp50"),
   (["xpeo", "oldpersian"],
    "CAz0B34d"),
   (["xsux", "cuneiform"],
    "CIA0ypD6De14bG3"),
   (["yezi", "yezidi"],
    "CDU0B91221"),
   (["yiii", "yi"],
    "BIA0BEc3Bm"),
   (["zanb", "zanabazarsquare"],
    "CGQ0C7"),
   (["zinh", "inherited", "qaai"],
    "Y0DfIl1O4aq0X03EKrBd2bP421c16406031G6BvQc1G2B0DZp3Db1BTL5fgd+f0H20ECq0BO+4Bd2mR02h726u3YLw
      iHf"),
   (["zyyy", "common"],
    "0C0q5qBe1e14n0v0O1B6542jDk0906010Tt060e030B00Es0Q40E11BGp0Ml3J20BPf2C71Gb110BGd0d073151220
      Y5b2Cm1a3a1ehB1BuB512251q1gB924UpmalyvI0Tj2E9Q0CtMik101of743Cr130Cq1EjfB0B590BgBvvCgBf0CoF
      7GO0BvWI0B1D62F59Hk0F00Mb0e1UOi1Gg9mB21i13Ej01vq5qaa0Bd1C0616a4I224Bc38CgcBjBcH4qBON43DwsH
      s3Nj6mfgCvDjBsHlaB62Bt3g817t4BsGljcjcCm9oE7Ck1C6112021231b10161C01327161r131410361Kj2J32Bh
      FDhC3CcBsW2Bb4D3ce2e1e1B4aFdBop11dBb4871e5Eq+o3g3c3Gp6b40fb4Bn896B78t2b41e8B7Kn8d2c3a3Bo10
      4f2b497Ei1D6YBA60uCv"),
   (["gara", "garay"],
    "CDK0B53s81"),
   (["gukh", "gurungkhema"],
    "CYI0Bp"),
   (["krai", "kiratrai"],
    "CxK0Bp"),
   (["onao", "olonal"],
    "DZOgBa40"),
   (["sunu", "sunuwar"],
    "CG+0B1e9"),
   (["todr", "todhri"],
    "CBO0Bj"),
   (["tutg", "tulutigalari"],
    "CEy0910201B519102013191181"),
   (["berf", "beriaerfe"],
    "CxV0o2o"),
   (["sidt", "sidetic"],
    "CCK0p"),
   (["tayo", "taiyo"],
    "DZW0u1l81"),
   (["tols", "tolongsiki"],
    "CHNgBb49")]

/-- The same with the code points that several scripts share. -/
def scriptExtensions : List (List String × String) :=
  [(["adlm", "adlam"],
    "BQv0B00GQe0DPh0DOVuCb4941"),
   (["aghb", "caucasianalbanian"],
    "Y40Bc0Bc0CAOhBjb0"),
   (["ahom"],
    "CFY0q2e4m"),
   (["arab", "arabic"],
    "BQ041Gm1B1CgBfHgB15Ca1sFwf0DPh0BTIeTvB0fDg41E6-3rCx4uC3588B15BXY031q1110201913101060401010
      121110201010101011102316131310191g52141gBk1"),
   (["armi", "imperialaramaic"],
    "CCC0l18"),
   (["armn", "armenian"],
    "Y80R8B52Bh22BzM34"),
   (["avst", "avestan"],
    "Fn0LLo1BXGeBl36"),
   (["bali", "balinese"],
    "GY0Cc1Bh"),
   (["bamu", "bamum"],
    "BJV0CnBQI8Ro"),
   (["bass", "bassavah"],
    "CwWgt25"),
   (["batk", "batak"],
    "G+0Bj83"),
   (["beng", "bengali"],
    "Vs0BUk1h1q317212l1610332821238041142oEWh01021108080204022BC-p0"),
   (["bhks", "bhaiksuki"],
    "CHA081Bc1das"),
   (["bopo", "bopomofo"],
    "W7012d0g1LIl2491ca32060G309BaDgvBTE51Iq4"),
   (["brah", "brahmi"],
    "CEA0Cd4B390"),
   (["brai", "braille"],
    "KA0Hv"),
   (["bugi", "buginese"],
    "GQ0r21BDzf0"),
   (["buhd", "buhid"],
    "FZl19j"),
   (["cakm", "chakma"],
    "CP69BSg9CAFmBk1h"),
   (["cans", "canadianaboriginal"],
    "FA0TvRgC5CANqf"),
   (["cari", "carian"],
    "Fn0Hz2020DOj0BVDeBg"),
   (["cham"],
    "BKQ0Bm9d2923"),
   (["cher", "cherokee"],
    "Y021061m1b1EDeCl25BFxiCf"),
   (["chrs", "chorasmian"],
    "CDzgr"),
   (["copt", "coptic", "qaac"],
    "Fn0S803110Dc1DcdKEgDj56In0BVG8r"),
   (["cpmn", "cyprominoan"],
    "CAI01LUeD2"),
   (["cprt", "cypriot"],
    "CAI024Bc38BW05201Bb113020"),
   (["cyrl", "cyrillic"],
    "Vs0C321010102050HeJfFwgaF00Cc0Dv0D-7vC30z-sCvVye1BYQ0BtB10"),
   (["deva", "devanagari"],
    "Vs0BS3Ci2BaEwgB611-m0BBZv9F6vyQ09"),
   (["diak", "divesakuru"],
    "CGI062027111t112b99"),
   (["dogr", "dogra"],
    "CL4bBHW09x+6Br"),
   (["dsrt", "deseret"],
    "CBA0Cf"),
   (["dupl", "duployan"],
    "Fn0Sf110o1KYn0DDO3Da5c387927"),
   (["egyp", "egyptianhieroglyphs"],
    "CMA0BClaDyq"),
   (["elba", "elbasan"],
    "Fn0Sd0CAPqB7"),
   (["elym", "elymaic"],
    "CD-0m"),
   (["ethi", "ethiopic"],
    "Ye0DXhC8132610132B8132B0132610132e1Bo132C22v3pGP6m9616161616161616-J2525259616CPFh613111e"),
   (["geor", "georgian"],
    "Fn0BGh0CYmB510502BfCygBa22yq0DF5B51050I30"),
   (["glag", "glagolitic"],
    "Fn0Sb010Lu020I10Cxh0Dwu0Cz5CvP30+Bb0COMg61g261114"),
   (["gong", "gunjalagondi"],
    "Fn0CFc1CE-q5111B4111579"),
   (["gonm", "masaramgondi"],
    "CL41CEyq6111Bb30111889"),
   (["goth", "gothic"],
    "Fn0Sc120B80B--uq"),
   (["gran", "grantha"],
    "CKh1h1U0dEGs011u231-m0ByQf317212l1611141921222060562634DCr110"),
   (["grek", "greek"],
    "Fn0S81201010a0Be020Ba72310401012101j1BuefGJ64Bi444Ck2Jul252B525271010101u2Bk1e1d251i2218Cu
      0G80BCRu0VOqCeh0BUCvC5"),
   (["gujr", "gujarati"],
    "CKh1h1Ir218121l16111429121220f32b76BHJg9"),
   (["guru", "gurmukhi"],
    "CKh1h1Er215412l16111111201441223073107gBHNp9"),
   (["hang", "hangul"],
    "EI0HvHQ12491ce260G30BlCtDhuC1uzX1sU3Kz3cm4BgJS91Iq4Bqu35252522"),
   (["hani", "han"],
    "Fn0LO8p1CocGlqf121c1c1c2068Fr0EkfB0B590BgB7BoBgfbBj0Cooa4D0u1GNvC0UPvBY07UPoLd2D9xb1Iq4yDs
      1c6Yx9hHWu1DNeBJWvB0EIt2FUd2HJgfTdCN2QtBP2Ewa5IJ9"),
   (["hano", "hanunoo"],
    "FZ0m"),
   (["hatr", "hatran"],
    "CCH0i1154"),
   (["hebr", "hebrew"],
    "Y71U8Bm8q45BzJ8p1410111119"),
   (["hira", "hiragana"],
    "MA12491cg510413Cl27Cq1BTK81Iq4a0Bd1BMD1Iui0t2QFd0"),
   (["hluw", "anatolianhieroglyphs"],
    "CRA0S6"),
   (["hmng", "pahawhhmong"],
    "CwY0C5a9161k5i"),
   (["hmnp", "nyiakengpuachuehmong"],
    "DYI0Bc3d2941"),
   (["hung", "oldhungarian"],
    "ICq020DOj0f0BXRuBidBi75"),
   (["ital", "olditalic"],
    "CAY0B392"),
   (["java", "javanese"],
    "BKM0Cd1a41"),
   (["kali", "kayahli"],
    "BKI0Bf"),
   (["kana", "katakana"],
    "Y50t0LGt2491cg51041Cr33CvHgfGgBe1CnBSXd1IqBuBMCg3161110Iv2Bi0e3"),
   (["kawi"],
    "CHY0g1B83s"),
   (["khar", "kharoshthi"],
    "CCQ031157121s224978"),
   (["khmr", "khmer"],
    "Fy0Ct2969P6v"),
   (["khoj", "khojki"],
    "CX69BHK09wO6h1Be"),
   (["kits", "khitansmallscript"],
    "Cx-40GYrOlB90"),
   (["knda", "kannada"],
    "CKh1h1Yqc121m19142812137152132912D+s01160n010BCZr5"),
   (["kthi", "kaithi"],
    "CL69JG10+Pu9wC6C2a0"),
   (["lana", "taitham"],
    "GR0Bu1s2a696d"),
   (["laoo", "lao"],
    "DU1110141n101m2410161923"),
   (["latn", "latin"],
    "C1p6pBf0c0205m1u1O030a01210901064re1110f27111B60504cIl1BGa1Bz80DA4B56Bg535c1C5Bp07HvJf0C10
      d0gcCj0Bp160r0hB8CWnvMn0+H87qD53ChkeJe0Q1Ba1813Tym6BAqp6pCB551B918BVw5u65"),
   (["lepc", "lepcha"],
    "HA0Bn3e32"),
   (["limb", "limbu"],
    "CL50Dyqu1b4b403b"),
   (["lina", "lineara"],
    "CAI7BcBGcJm9la7"),
   (["linb", "linearb"],
    "CAA0b1p1i111e2dB2Dq524Bc38"),
   (["lisu"],
    "Vs0g0LJs1zG4Bf+Vg0"),
   (["lyci", "lycian"],
    "ICq0BYR5s"),
   (["lydi", "lydian"],
    "Fn0LLp0BWXep50"),
   (["mahj", "mahajani"],
    "Fn0CFcbBHW09wImB6"),
   (["maka", "makasar"],
    "CHX0o"),
   (["mand", "mandaic"],
    "BS00Pvr20"),
   (["mani", "manichaean"],
    "BS00CBDvB64b"),
   (["marc", "marchen"],
    "CHDgv2l1d"),
   (["medf", "medefaidrin"],
    "CxS0Cq"),
   (["mend", "mendekikakui"],
    "DwA0G42f"),
   (["merc", "meroiticcursive"],
    "CCN0n4j2Bd"),
   (["mero", "meroitichieroglyphs"],
    "ICt0BwJ2v"),
   (["mlym", "malayalam"],
    "CKh1h1yqc121Bi12154f2pDwq0n0BCZt2"),
   (["modi"],
    "BKBg9xO6C4b9"),
   (["mong", "mongolian"],
    "GA0p6Co7BaBy40D+h153BZSkc"),
   (["mroo", "mro"],
    "CwS0u1941"),
   (["mtei", "meeteimayek"],
    "BKX0mG9Bd29"),
   (["mult", "multani"],
    "CT69CCAg610131e1a"),
   (["mymr", "myanmar"],
    "EA0EvBGEe0FhuD1vxCgj"),
   (["nagm", "nagmundari"],
    "DZGgB9"),
   (["nand", "nandinagari"],
    "CKh0i1y09D-p08070BCZl5yLa72Bd2a"),
   (["narb", "oldnortharabian"],
    "CCU0v"),
   (["nbat", "nabataean"],
    "CCE0u88"),
   (["newa"],
    "CKh1Ey201190601010BzYiCr14"),
   (["nkoo", "nko"],
    "BQc0e030N0Bq22BzJu1"),
   (["nshu", "nushu"],
    "Cx-10QMeMb"),
   (["ogam", "ogham"],
    "FU0s"),
   (["olck", "olchiki"],
    "HCgBf"),
   (["orkh", "oldturkic"],
    "ICq0DOl0BXOfC8"),
   (["orya", "oriya"],
    "CKh1h1Mr217212l1611142821227241142hEL20n0"),
   (["osge", "osage"],
    "Y102060Cc0CAKnB34B3"),
   (["osma", "osmanya"],
    "CBE0t29"),
   (["ougr", "olduyghur"],
    "BS00CBFh0BDtp"),
   (["palm", "palmyrene"],
    "CCD0v"),
   (["pauc", "paucinhau"],
    "CGW0Bo"),
   (["perm", "oldpermic"],
    "Fn0S8052a0Lf0B-WcBa"),
   (["phag", "phagspa"],
    "GA2110CB90D+i0+BtBn"),
   (["phli", "inscriptionalpahlavi"],
    "CCx0i57"),
   (["phlp", "psalterpahlavi"],
    "BS00CBJvh73c6"),
   (["phnx", "phoenician"],
    "CCI0r30"),
   (["plrd", "miao"],
    "CxY0Ca4Bo7g"),
   (["prti", "inscriptionalparthian"],
    "CCw0l27"),
   (["rjng", "rejang"],
    "BKJgB3b0"),
   (["rohg", "hanifirohingya"],
    "BQc0e030B00Ej0CBRbB789"),
   (["runr", "runic"],
    "FV0Co"),
   (["samr", "samaritan"],
    "CA0Bd2eJPi0"),
   (["sarb", "oldsoutharabian"],
    "CCT0v"),
   (["saur", "saurashtra"],
    "BKE0C58b"),
   (["sgnw", "signwriting"],
    "DWA0Ubf41e"),
   (["shaw", "shavian"],
    "Fn0CAyoBf"),
   (["shrd", "sharada"],
    "CKh0Ey501021209020BCw2520wK7CvCM07"),
   (["sidd", "siddham"],
    "CFM0Bl2B5"),
   (["sind", "khudawadi"],
    "CL41BHWa9wTmBq59"),
   (["sinh", "sinhala"],
    "CL41BAr21h3n181026304510176922DXt0BzHej"),
   (["sogd", "sogdian"],
    "BS00CCHfB9"),
   (["sogo", "oldsogdian"],
    "CDY0B7"),
   (["sora", "sorasompeng"],
    "CEGgo79"),
   (["soyo", "soyombo"],
    "CGSgCi"),
   (["sund", "sundanese"],
    "Gy0BvI07"),
   (["sylo", "sylotinagri"],
    "CL41E09BHQgBc"),
   (["syrc", "syriac"],
    "Y312110o27111Wq0e120B00aaq0Efd1Br22IgaFMd010"),
   (["tagb", "tagbanwa"],
    "FZl1B9c1211"),
   (["takr", "takri"],
    "CL41BHWa9xS6Bp69"),
   (["tale", "taile"],
    "Y015130DJj9CI6t24"),
   (["talu", "newtailue"],
    "GM0Bb4p6a31"),
   (["taml", "tamil"],
    "CKh1h1Qs115321331101131323b4432132060ekEGv0BDAo0wQd010Bn1DE3Bhd0"),
   (["tang", "tangut"],
    "L-gfPf0CPPg0vGXvQ0uD1Di"),
   (["tavt", "taiviet"],
    "BKU0C2o4"),
   (["telu", "telugu"],
    "CKh1h1Uqc121m1f281213711211232978ECl11010n0"),
   (["tfng", "tifinagh"],
    "Y201013p0KQcBn71e0"),
   (["tglg", "tagalog"],
    "FY0l90l1"),
   (["thaa", "thaana"],
    "BQc0e120C09ImBhBzS00a0"),
   (["thai"],
    "Vs0q0Bb0Bd0CWfBp5r"),
   (["tibt", "tibetan"],
    "DY0C71B34B61B31e1641IBd3"),
   (["tirh", "tirhuta"],
    "CKh1h1Exf0c0f0BCZt9xC6C789"),
   (["tnsa", "tangsa"],
    "CwTgCe19"),
   (["toto"],
    "Vs0DX+ju"),
   (["ugar", "ugaritic"],
    "CAy0t10"),
   (["vaii", "vai"],
    "BJI0Jb"),
   (["vith", "vithkuqi"],
    "CBLga1e16111a1e1611"),
   (["wara", "warangciti"],
    "CGF0Cic0"),
   (["wcho", "wancho"],
    "DYW0Bp50"),
   (["xpeo", "oldpersian"],
    "CAz0B34d"),
   (["xsux", "cuneiform"],
    "CIA0ypD6De14bG3"),
   (["yezi", "yezidi"],
    "BQc0e030C09CCAmB91221"),
   (["yiii", "yi"],
    "MA115927Gv0xY4BEc3BmWUq4"),
   (["zanb", "zanabazarsquare"],
    "CGQ0C7"),
   (["zinh", "inherited", "qaai"],
    "Yf0201e36202f111h1413BPg1EKrBd2bWmBl1014Qc1G2vBXIgfgd+f0BTI2Bd2mR02h726u3YLwiHf"),
   (["zyyy", "common"],
    "0C0q5qBe1b1114n0v0O12191030181015542jDu06010Tt0Gn0Q40BKs0Ml3EB7b2B01u1911161a3a1ehB1BuB512
      251q1gB924UpmalyvI0Tj2E9Q0m1n2913101pN2030d0d0l0Qhnv0Bhec3F195Cvv0GO0BvWI8pD62+g0e1UV49mk2
      b1i13Ej01vq5q5Dv616a4MicBjBcBSQ3Hs3Nj6mfgCvDjBsHlaB62Bt3g817t4BsGljcjcCmr6E7Ck1C6112021231
      b10161C01327161r131410361Kj2J32BhFDhC3CcBsW2Bb4D3ce2e1e1B4aFdBop11dBb48n5Eq+o3g3c3Gp6b40fb
      4Bn896B78t2b41e8B7Kn8d2c3a3Bo104f2b497Ei1D6YBA60uCv"),
   (["gara", "garay"],
    "BQc0e030CBZ0B53s81"),
   (["gukh", "gurungkhema"],
    "CL50CVyqBp"),
   (["krai", "kiratrai"],
    "CxK0Bp"),
   (["onao", "olonal"],
    "CL41DXDaBa40"),
   (["sunu", "sunuwar"],
    "Y01109020s030CGEeB1e9"),
   (["todr", "todhri"],
    "Y1020209010Ca0CAT1Bj"),
   (["tutg", "tulutigalari"],
    "DH69EA2010BCZr5Fr0wUe910201B519102013191181"),
   (["berf", "beriaerfe"],
    "CxV0o2o"),
   (["sidt", "sidetic"],
    "CCK0p"),
   (["tayo", "taiyo"],
    "DZW0u1l81"),
   (["tols", "tolongsiki"],
    "CHNgBb49")]

def script? (name : String) : Option CodeSet :=
  (scripts.find? fun entry => entry.1.contains name).map fun entry => unpackSet entry.2

def scriptExtension? (name : String) : Option CodeSet :=
  (scriptExtensions.find? fun entry => entry.1.contains name).map fun entry => unpackSet entry.2

end NamedSchema.Unicode
