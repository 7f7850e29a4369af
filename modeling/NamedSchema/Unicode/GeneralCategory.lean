import NamedSchema.Unicode.Packed

/-!
# General categories

The general category of every code point, as runs over the whole code space: a letter for the
category, and a packed number for the code points of the run after its first.
-/
namespace NamedSchema.Unicode

/-- The thirty categories in the order of the letters of `categoryRuns`. -/
def categories : List String :=
  ["Lu", "Ll", "Lt", "Lm", "Lo", "Mn", "Mc", "Me", "Nd", "Nl", "No", "Pc", "Pd", "Ps", "Pe",
   "Pi", "Pf", "Po", "Sm", "Sc", "Sk", "So", "Zs", "Zl", "Zp", "Cc", "Cf", "Cs", "Co", "Cn"]

def categoryLetters : List Char := "ABCDEFGHIJKLMNOPQRSTUVWXYZabcd".toList

def categoryRuns : String :=
  "ZvW0R2T0R2N0O0R0S0R0M0R1I9R1S2R1ApN0R0O0U0L0U0BpN0S0O0S0ZB0W0R0T3V0R0U0V0E0P0S0a0V0U0V0S0K1U
    0B0R1U0K0E0Q0K2R0AmS0A6BnS0B7A0B0A0B0A0B0A0B0A0B0A0B0A0B0A0B0A0B0A0B0A0B0A0B0A0B0A0B0A0B0A0B
    0A0B0A0B0A0B0A0B0A0B0A0B0A0B0A0B0A0B0A0B0A0B0A0B1A0B0A0B0A0B0A0B0A0B0A0B0A0B0A0B1A0B0A0B0A0B
    0A0B0A0B0A0B0A0B0A0B0A0B0A0B0A0B0A0B0A0B0A0B0A0B0A0B0A0B0A0B0A0B0A0B0A0B0A0B0A0B0A1B0A0B0A0B
    2A1B0A0B0A1B0A2B1A3B0A1B0A2B2A1B0A1B0A0B0A0B0A1B0A0B1A0B0A1B0A2B0A0B0A1B1E0A0B2E3A0C0B0A0C0B
    0A0C0B0A0B0A0B0A0B0A0B0A0B0A0B0A0B0A0B1A0B0A0B0A0B0A0B0A0B0A0B0A0B0A0B0A0B1A0C0B0A0B0A2B0A0B
    0A0B0A0B0A0B0A0B0A0B0A0B0A0B0A0B0A0B0A0B0A0B0A0B0A0B0A0B0A0B0A0B0A0B0A0B0A0B0A0B0A0B0A0B0A0B
    0A0B0A0B0A0B0A0B0A0B6A1B0A1B1A0B0A3B0A0B0A0B0A0B0A0BC4E1BpDhU3DbUdD4U6D0U0D0UgFDfA0B0A0B0D0U
    0A0B0d1D0B2R0A0d3U1A0R0A2d0A0d0A1B0Agd0A8BB2A0B1A2B2A0B0A0B0A0B0A0B0A0B0A0B0A0B0A0B0A0B0A0B0
    A0B0A0B4A0B0S0A0B0A1B1ABiBBfA0B0A0B0A0B0A0B0A0B0A0B0A0B0A0B0A0B0A0B0A0B0A0B0A0B0A0B0A0B0A0B0
    A0B0V0F4H1A0B0A0B0A0B0A0B0A0B0A0B0A0B0A0B0A0B0A0B0A0B0A0B0A0B0A0B0A0B0A0B0A0B0A0B0A0B0A0B0A0
    B0A0B0A0B0A0B0A0B0A0B0A0B0A1B0A0B0A0B0A0B0A0B0A0B0A0B1A0B0A0B0A0B0A0B0A0B0A0B0A0B0A0B0A0B0A0
    B0A0B0A0B0A0B0A0B0A0B0A0B0A0B0A0B0A0B0A0B0A0B0A0B0A0B0A0B0A0B0A0B0A0B0A0B0A0B0A0B0A0B0A0B0A0
    B0A0B0A0B0A0B0A0B0A0B0A0B0A0B0A0B0A0B0A0B0A0B0A0B0A0B0A0B0A0B0d0AB5d1D0R5BB8R0M0d1V1T0d0FBcM
    0F0R0F1R0F1R0F0d7Eqd3E3R1daa5S2R1T0R1V1FaR0a0R2EvD0E9FkI9R3E1F0ED2R0E0F6a0V0F5D1F1V0F3E1I9E2
    V1E0Rdd0a0E0F0EtFqd1ECoFaE0ddI9EB0F8D1V0R2D0d1F0T1ElF3D0F8D0F2D0F4d1Red0EoF2d1R0d0Ead4EnU0E6
    a1d4F8EB8D0Fna0FvG0EBlF0G0F0E0G2F7G3F0G1E0F6E9F1R1I9R0D0EeF0G1d0E7d1E1d1Eld0E6d0E0d2E3d1F0E0
    G2F3d1G1d1G1F0E0d7G0d3E1d0E2F1d1I9E1T1K5V0T0E0R0F0d1F1G0d0E5d3E1d1Eld0E6d0E1d0E1d0E1d1F0d0G2
    F1d3F1d1F2d2F0d6E3d0E0d6I9F1E2F0R0d9F1G0d0E8d0E2d0Eld0E6d0E1d0E4d1F0E0G2F4d0F1G0d0G1F0d1E0de
    E1F1d1I9R0T0d6E0F5d0F0G1d0E7d1E1d1Eld0E6d0E1d0E4d1F0E0G0F0G0F3d1G1d1G1F0d6F1G0d3E1d0E2F1d1I9
    V0E0K5d9F0E0d0E5d2E2d0E3d2E1d0E0d0E1d2E1d2E2d2Ebd3G1F0G1d2G2d0G2F0d1E0d5G0ddI9K2V5T0V0d4F0G2
    F0E7d0E2d0Emd0Efd1F0E0F2G3d0F2d0F3d6F1d0E2d0E1d1E1F1d1I9d6R0K6V0E0F0G1R0E7d0E2d0Emd0E9d0E4d1
    F0E0G0F0G4d0F0G1d0G1F1d6G1d4E2d0E1F1d1I9d0E1G0dbF1G1E8d0E2d0EB8F1E0G2F3d0G2d0G2F0E0V0d3E2G0K
    6E2F1d1I9K8V0E5d0F0G1d0Ehd2End0E8d0E0d1E6d2F0d3G2F2d0F0d0G7d5I9d1G1R0dbEBfF0E1F6d3T0E5D0F7R0
    I9R1dB4E1d0E0d0E4d0End0E0d0E9F0E1F8E0d1E4d0D0d0F6d0I9d1E3dvE0V2ReV0R0V2F1V5I9K9V0F0V0F0V0F0N
    0O0N0O0G1E7d0EB3d3FdG0F4R0F1E4Fad0FB3d0V7F0V5d0V1R4V3R1dB4EBaG1F3G0F5G0F1G1F1E0I9R5E5G1F1E3F
    2E0G2E1G6E2F3EcF0G1F1G5F0E0G0I9G2F0V1AB5d0A0d4A0d1BBaR0D0B2EK8d0E3d1E6d0E0d0E3d1EB8d0E3d1EB0
    d0E3d1E6d0E0d0E3d1Eed0EBod0E3d1EC2d1F2R8Kjd2EfV9d5ACld1B5d1M0ETbV0R0EgW0EpN0O0d2ECaR2J2E7d6E
    hF2G0d8EiF1G0R1d8EhF1dbEcd0E2d0F1dbEBjF1G0F6G7F0G1FaR2D0R2T0E0F0d1I9d5K9d5R5M0R3F2a0F0I9d5EB
    2D0EBkd6E4F1EB1F0E0d4EC5d9Eud0F2G3F1G2d3G1F0G5F2d3V0d2R1I9Etd1E4daEBbd3Epd5I9K0d2VB1EmF1G1F0
    d1R1EBkG0F0G0F6d0F0G0F0G1F7G5F9d1F0I9d5I9d5R6D0R5d1FdH0Fud1FbdjF3G0EBeF0G0F4G0F0G4F0G1E7d0R1
    I9R6V9F8V8R2F1G0EtG0F3G1F1G0F2E1I9EBbF0G0F1G2F0G0F2G1d7R3EB3G7F7G1F1d2R4I9d2E2I9EtD5R1B8A0B0
    d4ABad1A2R7d7F2R0FcG0F6E3F0E5F0E1G0F1E0d4BBbDBuBcD0BB1DB4FBvA0B0A0B0A0B0A0B0A0B0A0B0A0B0A0B0
    A0B0A0B0A0B0A0B0A0B0A0B0A0B0A0B0A0B0A0B0A0B0A0B0A0B0A0B0A0B0A0B0A0B0A0B0A0B0A0B0A0B0A0B0A0B0
    A0B0A0B0A0B0A0B0A0B0A0B0A0B0A0B0A0B0A0B0A0B0A0B0A0B0A0B0A0B0A0B0A0B0A0B0A0B0A0B0A0B0A0B0A0B0
    A0B0A0B0A0B0A0B0A0B0A0B0A0B0A0B0A0B0A0B0A0B0A0B0A0B0A0B0A0B0A0B0A0B0A0B0A0B0A0B0A0B8A0B0A0B0
    A0B0A0B0A0B0A0B0A0B0A0B0A0B0A0B0A0B0A0B0A0B0A0B0A0B0A0B0A0B0A0B0A0B0A0B0A0B0A0B0A0B0A0B0A0B0
    A0B0A0B0A0B0A0B0A0B0A0B0A0B0A0B0A0B0A0B0A0B0A0B0A0B0A0B0A0B0A0B0A0B0A0B0A0B0A0B0A0B0A0B0A0B0
    A0B8A7B5d1A5d1B7A7B7A7B5d1A5d1B7d0A0d0A0d0A0d0A0B7A7Bdd1B7C7B7C7B7C7B4d0B1A3C0U0B0U2B2d0B1A3
    C0U2B3d1B1A3d0U2B7A4U2d1B2d0B1A3C0U1d0Waa4M5R1P0Q0N0P1Q0N0P0R7X0Y0a4W0R8P0Q0R3L1R2S0N0O0RaS0
    R0L0R9W0a4d0a9K0D0d1K5S2N0O0D0K9S2N0O0d0Dcd2TB1ddFcH3F0H2FbdeV1A0V3A0V1B0A2B1A2B0V0A0V1S0A4V
    5A0V0A0V0A0V0A3V0B0A3B0E3B0V1B1A1S4A0B3V0S0V1B0V0KfJB2A0B0J3K0V1d3S4V4S1V3S0V1S0V1S0V6S0VuS1
    V1S0V0S0VuSIbV7N0O0N0O0VjS1V6N0O0VCgS0VtSoVB7S5VC7dlVadkKBrVCdKlVFmS0V8S0VBlS7VDeS0VHnN0O0N0
    O0N0O0N0O0N0O0N0O0N0O0KtVBbS4N0O0SuN0O0N0O0N0O0N0O0N0O0SfVHvSE2N0O0N0O0N0O0N0O0N0O0N0O0N0O0N
    0O0N0O0N0O0N0O0SBuN0O0N0O0SvN0O0SI1VBfSkV1S5VB6d1VE9ABfBBfA0B0A2B1A0B0A0B0A0B0A3B0A0B1A0B5D1
    A2B0A0B0A0B0A0B0A0B0A0B0A0B0A0B0A0B0A0B0A0B0A0B0A0B0A0B0A0B0A0B0A0B0A0B0A0B0A0B0A0B0A0B0A0B0
    A0B0A0B0A0B0A0B0A0B0A0B0A0B0A0B0A0B0A0B0A0B0A0B0A0B0A0B0A0B0A0B0A0B0A0B0A0B0A0B0A0B0A0B0A0B0
    A0B0A0B0A0B0A0B1V5A0B0A0B0F2A0B0d4R3K0R1BB5d0B0d4B0d1EBnd6D0R0ddF0Emd8E6d0E6d0E6d0E6d0E6d0E6
    d0E6d0E6d0FvR1P0Q0P0Q0R2P0Q0R0P0Q0R8M0R1M0R0P0Q0R1P0Q0N0O0N0O0N0O0N0O0R4D0R9M1R3M0R0N0RcV1R2
    N0O0N0O0N0O0N0O0M0dB1Vpd0VCodbVGldpVfW0R2V0D0E0J0N0O0N0O0N0O0N0O0N0O0V1N0O0N0O0N0O0N0O0M0N0O
    1V0J8F3G1M0D4V1J2D0E0R0V1d0ECld1F1U1D1E0M0ECpR0D2E0d4EBad0ECtd0V1K3V9EvVB5d8V0EfVud0K9VtK7V0
    KeVvK9VB6KeVJvEGNvVBvEUQkD0EBDmd2VBmd8EB7D5R1EIbD0R2EfI9E1djA0B0A0B0A0B0A0B0A0B0A0B0A0B0A0B0
    A0B0A0B0A0B0A0B0A0B0A0B0A0B0A0B0A0B0A0B0A0B0A0B0A0B0A0B0A0B0E0F0H2R0F9R0D0A0B0A0B0A0B0A0B0A0
    B0A0B0A0B0A0B0A0B0A0B0A0B0A0B0A0B0A0B0D1F1EC5J9F1R5d7UmD8U1A0B0A0B0A0B0A0B0A0B0A0B0A0B2A0B0A
    0B0A0B0A0B0A0B0A0B0A0B0A0B0A0B0A0B0A0B0A0B0A0B0A0B0A0B0A0B0A0B0A0B0A0B0A0B0A0B0A0B0A0B0A0B0A
    0B0A0B0A0B0A0B0A0B0A0B0A0B0D0B7A0B0A0B0A1B0A0B0A0B0A0B0A0B0D0U1A0B0A0B0E0A0B0A0B2A0B0A0B0A0B
    0A0B0A0B0A0B0A0B0A0B0A0B0A0B0A4B0A4B0A0B0A0B0A0B0A0B0A0B0A0B0A0B0A3B0A0B0A1B0A0B0A0B0A0B0A0B
    0A0B0A0B0A0B0A0djD3A0B0E0D1B0E6F0E2F0E3F0EmG1F1G0V3F0d2K5V1T0V0d5EBjR3d7G1EBhGfF1d7R1I9d5FhE
    5R2E0R0E1F0I9ErF7R1EmFaG1daR0Esd2F2G0EBeF0G1F3G1F1G2Rcd0D0I9d3R1E4F0D0E8I9E4d0EB8F5G1F1G1F1d
    8E2F0E7F0G0d1I9d1R3EfD0E5V2E0G0F0G0EBhF0E0F2E1F1E4F1E0F0E0dnE1D0R1EaG0F1G1R1E0D1G0F0d9E5d1E5
    d1E5d8E6d0E6d0BBaU0D3B8D0U1d3BCfEB2G1F0G1F0G1R0G0F0d1I9d5EKz3dbEmd3EBgd3bB-vcGHvELdd1ED9dB5B
    6dbB4d4E0F0E9S0Ecd0E4d0E0d0E1d0E1d0EDbUgVfELaO0N0VfEBvV1EBlV7dvEbT0V2FfR6N0O0R0d5FfR0M1L1N0O
    0N0O0N0O0N0O0N0O0N0O0N0O0N0O0R1N0O0R3L2R2d0R3M0N0O0N0O0N0O0R2S0M0S2d0R0T0R1d3E4d0EE6d1a0d0R2
    T0R2N0O0R0S0R0M0R1I9R1S2R1ApN0R0O0U0L0U0BpN0S0O0S0N0O0R0N0O0R1E9D0EBcD1Eud2E5d1E5d1E5d1E2d2T
    1S0U0V0T1d0V0S3V1d9a2V1d1Ebd0Epd0Eid0E1d0Eed1EddB1EDqd4R2d3KBcd2V8JBkK3VgK1V2d0Vcd2V0dBeVBcF
    0dE1Esd2EBgdeF0Kqd3EvK3d8EjJ0E7J0d4EB5F4d4Etd0R0EB3d3E7R0J4dB9AB7BB7ECdd1I9d5AB3d3BB3d3EB7d7
    EBjdaR0Aad0Aed0A6d0A1d0Bad0Bed0B6d0B1d2EBjdbEJmd8Eld9E7dnD5d0DB9d0D8dC4E5d1E0d0EBbd0E1d2E0d1
    Emd0R0K7EmV1K6Eud7K8dBfEid0E1d4K4ElK5d2R0Epd4R0EpdB5EBnd3K1E1Kfd1KBdE0F2d0F1d4F3E3d0E2d0Esd1
    F2d3F0K8d6R8d6EsK1R0EsK2dvE7V0ErF1d3K4R6d8EBld2R6Eld1K7Eid4K7Ehd6R3dbK6dCfEC8dBmABidcBBid6K5
    EB3F3d7I9d5I9E3D0E0Ald2F4M0D0Bld7S1dGfKud0EB9d0F1M0d1E1dfE2D0E1d7R0V7dB0F5EsK9E0d7ElFaK3R4dl
    EhF3R3dB5EkK6djEmd8G0F0G0EBkFeR6d3KjI9F0E1F1E0d8F2G0EBcG2F3G1F1R1a0R3F0d9a0d1Eod6I9d5F2EB3F4
    G0F7d0I9R3E0G1E0d7EB2F0R1E0d8F1G0EBfG2F8G1E3R3F3R0G0F0I9E0R0E0R2d0KjdaEhd0EoG2F2G1F0G0F1R5F0
    E1F0dBtE6d0E0d0E3d0Eed0E9R0d5EBeF0G2F7d4I9d5F1G1d0E7d1E1d1Eld0E6d0E1d0E4d0F1E0G1F0G3d1G1d1G2
    d1E0d5G0d4E4G1d1F6d2F4daE9d0E0d1E0d0EB5d0E0G2F5d0G0d1G0d0G3d0G1F0G0F0E0F0E0R1d0R1d7F1dsEBkG2
    F7G1F2G0F0E3R4I9R1d0R0F0E2dtEBfG2F5G0F0G3F1G0F1E1R0E0d7I9dF5EBeG2F3d1G3F1G0F1RmE3F1dB1EBfG2F
    7G1F0G0F1R2E0daI9d5RcdiEBaF0G0F0G1F5G0F0E0R0d5I9d5IjdrEqd1F0G0F0G1F3G0F4d3I9K1R2V0E6dFoEBbG2
    F8G0F1R0dD3AvBvI9K8dbE7d1E0d1E7d0E1d0EnG5d0G1d1F1G0F0E0G0E0G0F0R2d8I9dC5E7d1EB6G2F3d1F1G3F0E
    0R0E0G0dqE0F9EB7F5G0E0F3R7F0d7E0F5G1F2EBdFcG0F1R2E0R4dcEC8d6R9dClF0G0F2G0F0G0dCnEB0R0ddI9d5E
    8d0EB4G0F6d0F5G0F0E0R4d9I9Kid2R1Etd1Fld0G0F6G0F1G0F1dC8E6d0E1d0EB5F5d2F0d0F1d0F6E0F0d7I9d5E5
    d0E1d0EvG4d0F1d0G1F0G0F0E0d6I9d5EB8D0E1d3I9dHlEiF1G1R1d6F1E0G0Ecd0EB1G1F4d2G1F0G0F0RcI9F0dCk
    E0deKkV7T3VgdcR0EypdD5JDed0R4daEG3dCSbED0R1dcEBBfafF0E5Fed9EDyqd4ES6dGVoEtFbG2F2I9dBW5ERod6E
    ud0I9d3R1ECed0I9d5Etd1F4R0d9EBfF6R4V3D3R0V0d9I9d0K6d0Ekd4EidNfD2EB7D1R2I9dG5AvBvKmR3d4Aod1Bo
    dBbECad3F0E0GBmd6F3DcdBvD1R0D0F0daG1D1J2d8EHGldB8EvdD0EDidIPsD3d0D6d0D1d0EJ2deE0dsE2d1E0ddE3
    d7EMbdCI3EDad4Ecd2E8d6E9d1V0F1R0a3dDwrVHfI9V2d2VNjd5VmdeVfS0deFBdd1Fmd8VDjdBrVHld9VB6d1VBrG1
    F2V2G5a7F7V1F6VtF3VBsdkVC1F2V0dDpKjdbKjdbVCmd8KodE6ApBpApB6d0BhApBpA0d0A1d1A0d1A1d1A3d0A7B3d
    0B0d0B6d0BaApBpA1d0A3d1A7d0A6d0BpA1d0A3d0A4d0A0d2A6d0BpApBpApBpApBpApBpApBpApBrd1AoS0BoS0B5A
    oS0BoS0B5AoS0BoS0B5AoS0BoS0B5AoS0BoS0B5A0B0d1IBhVPvFBmV3FBhV7F0VdF0V1R4deF4d0FedBCfB9E0Bjd5B
    5dGkF6d0Fgd1F6d0F1d0F4d4DBtdB0F0dDfEBcd2F6D6d1I9d3E0V0dJvEtF0dgEBbF3I9d4T0dOfEqD0F3I9dGlEtF1
    E0I9d3R0dFvEud0E2F0E1F0E6F1E4F0d7E0D0dGvE6d0E3d0E1d0Eed0EG4d1K8F6dB8AB1BB1F6D0d3I9d3R1dYgKBq
    V0K2T0K3dCbKBcV0KedG1E3d0Eqd0E1d0E0d1E0d0E9d0E3d0E0d0E0d5E0d3E0d0E0d0E0d0E2d0E1d0E0d1E0d0E0d
    0E0d0E0d0E0d0E1d0E0d1E3d0E6d0E3d0E3d0E0d0E9d0Egd4E2d0E4d0EgdBjS1dIdVBbd3VD3dbVed1Ved0Ved0VB4
    d9KcVF0dBnVsdcVBbd3V8d6V1ddV5dEpVHqU4VWod2Vgd2Vcd2VGpd5Vbd3V0deVbd3VBnd7V9d5VB7d7Vtd1Vbd3V1d
    dS8dB6VKnd7Vdd1Vcd2Vad2VBod0V0d3Vfd1Vbd3V9d6VEid0VCrI9V0dBA4EBJWvdvEEItd1EFUdd1EHJgdeETddCN1
    EQtdBP1EEwad4EIJ9dVSy6a0dtaCvdDvFHfdB-QfcB--td1cB--td1"

/-- The runs as ranges with the letter of their category. -/
def runsFrom (next value : Nat) (letter : Option Char) : List Char → List (Char × CodeRange)
  | [] => []
  | c :: rest =>
    match letter with
    | none => runsFrom next 0 (some c) rest
    | some l =>
      match packedDigit c with
      | (d, true) =>
        let more := value * 32 + d
        (l, ⟨next, next + more⟩) :: runsFrom (next + more + 1) 0 none rest
      | (d, false) => runsFrom next (value * 32 + d) letter rest

/-- Each run of one category. -/
def categoryTable : List (Char × CodeRange) := runsFrom 0 0 none (packedDigits categoryRuns)

def ofCategories (names : List String) : CodeSet :=
  let wanted := (categories.zip categoryLetters).filterMap fun (name, letter) =>
    if names.contains name then some letter else none
  CodeSet.ofRanges (categoryTable.filterMap fun (letter, range) =>
    if wanted.contains letter then some range else none)

/-- The names of each category and each group of categories, in loose spelling. -/
def categoryNames : List (List String × List String) :=
  [(["Lu"], ["lu", "uppercaseletter"]),
   (["Ll"], ["ll", "lowercaseletter"]),
   (["Lt"], ["lt", "titlecaseletter"]),
   (["Lu", "Ll", "Lt"], ["lc", "casedletter"]),
   (["Lm"], ["lm", "modifierletter"]),
   (["Lo"], ["lo", "otherletter"]),
   (["Lu", "Ll", "Lt", "Lm", "Lo"], ["l", "letter"]),
   (["Mn"], ["mn", "nonspacingmark"]),
   (["Mc"], ["mc", "spacingmark"]),
   (["Me"], ["me", "enclosingmark"]),
   (["Mn", "Mc", "Me"], ["m", "mark", "combiningmark"]),
   (["Nd"], ["nd", "decimalnumber", "digit"]),
   (["Nl"], ["nl", "letternumber"]),
   (["No"], ["no", "othernumber"]),
   (["Nd", "Nl", "No"], ["n", "number"]),
   (["Pc"], ["pc", "connectorpunctuation"]),
   (["Pd"], ["pd", "dashpunctuation"]),
   (["Ps"], ["ps", "openpunctuation"]),
   (["Pe"], ["pe", "closepunctuation"]),
   (["Pi"], ["pi", "initialpunctuation"]),
   (["Pf"], ["pf", "finalpunctuation"]),
   (["Po"], ["po", "otherpunctuation"]),
   (["Pc", "Pd", "Ps", "Pe", "Pi", "Pf", "Po"], ["p", "punctuation", "punct"]),
   (["Sm"], ["sm", "mathsymbol"]),
   (["Sc"], ["sc", "currencysymbol"]),
   (["Sk"], ["sk", "modifiersymbol"]),
   (["So"], ["so", "othersymbol"]),
   (["Sm", "Sc", "Sk", "So"], ["s", "symbol"]),
   (["Zs"], ["zs", "spaceseparator"]),
   (["Zl"], ["zl", "lineseparator"]),
   (["Zp"], ["zp", "paragraphseparator"]),
   (["Zs", "Zl", "Zp"], ["z", "separator"]),
   (["Cc"], ["cc", "control", "cntrl"]),
   (["Cf"], ["cf", "format"]),
   (["Co"], ["co", "privateuse"]),
   (["Cn"], ["cn", "unassigned"]),
   (["Cc", "Cf", "Cs", "Co", "Cn"], ["c", "other"])]

/-- The code points of a category by its name in loose spelling. -/
def category? (name : String) : Option CodeSet :=
  if name = "any" then some CodeSet.all
  else if name = "ascii" then some CodeSet.ascii
  else if name = "assigned" then some (ofCategories ["Cn"]).complement
  else (categoryNames.find? fun entry => entry.2.contains name).map fun entry => ofCategories entry.1

end NamedSchema.Unicode
