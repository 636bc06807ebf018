import MagicRules.Unicode.Table

/-!
# Ages

The age of a character is the version of the standard that first had it. What is older is part
of every later version, so a version is asked for with all that came before it.
-/

namespace MagicRules.Unicode

/-- The versions in order. In the table letters number them, the capital ones first. -/
def versions : List String :=
  ["1.1", "2.0", "2.1", "3.0", "3.1", "3.2", "4.0", "4.1", "5.0",
   "5.1", "5.2", "6.0", "6.1", "6.2", "6.3", "7.0", "8.0", "9.0",
   "10.0", "11.0", "12.0", "12.1", "13.0", "14.0", "15.0", "15.1", "16.0"]

def ageRuns : List Run := runs
  "A502D4A30D8F1G1D18G3H11I14A89D5G2A47D1A10D5G17A70D9F1G8H5G3A2D1F13J4A2J2-2A1I3A1P1-4A7-1A1-1A20
  -1A44J1A7D1F2A1D1A1D1A1D1A1D1A18E2F1G5H4D1A12D1A66D1A12D1A41J1D2F2D4A53F2A2F2A2F2I1A28D2A8H2A2I6
  F16I4J16K2L2P8-1A38-2A7T1A39T1A1D1-2P2M1-1B17H1B13A10I1A9B1H3-8A27-4T1A5-11G4M1P1J5H1A1G9J5A1O1
  X1H1A1L1A26J5A19D3G3H6L1A14F2A72D2A5D1A15D1A30G2A10D5G1D14-1D30G3D27-2G3H30J18D49F1-14I59-2T3K46
  -2K15-1L28-2L1-1S11-5X31-1X2-5a1X8M1P1M11P6Q2X1R8W10X11T1R15Q1M27P1K1A3G1A53L2A18K1L1A5K1L2A25J2
  L5P1K2I2H1I2P1A3-1A8-2A2-2A22-1A7-1A1-3A4-2A1G1A7-2A2-2A3H1-8A1-4A2-1A5-2A21K1S2T1-2G1A1G1-1A6-4
  A2-2A22-1A7-1A2-1A2-1A2-2A1-1A5-4A2-2A3-3J1-7A4-1A1-7A15J1T1-10A3-1A7G1A1-1A3-1A22-1A7-1A2-1A5-2
  A10-1A3-1A3-2A1-15A1G3-2A10M1G1-7Q1S6-1A3-1A8-2A2-2A22-1A7-1A2-1G1A4-2A8J1-2A2-2A3-7W1A2-4A2-1A3
  J2-2A11G1L6-10A2-1A6-3A3-1A4-3A2-1A1-1A2-3A2-3A3-3A8H1A3-4A5-3A3-1A4-2J1-6A1-14H1A12G8-5P1A3T1A8
  -1A3-1A23-1A10P1A5-2X1J1A7-1A3-1A4-7A2-1J2Q1-2X1-2A2J2-2A10-7U1J8R1P1A2T1A8-1A3-1A23-1A10-1A5-2
  G2A7-1A3-1A4-7A2-6X1A1-1A2I2-2A10-1I2Y1-12S1P1A2W1A8-1A3-1A23L1A16L1S2J1A6J1-1A3-1A4L1R1-4R3A1R7
  Q1A2J2-2A10J6R3J7-1W1D2-1D18-3D24-1D9-1D1-2D7-3D1-4D6-1D1-1D8-6P10-2D3-12A58-4A29-37A2-1A1-1U1A2
  U1A1-1U1A1U6A4U1A7U1A3-1A1-1A1U2A2U1A13U1A3-2A5-1A1-1A6Y1-1A10-2A2M2-32B72-1B33D1J2-4B27L4B6D1B1
  -1B21D3B7D1B1D3-1D15-1J1D1H2J3K4L2-37D34J1D5J1D2J1D7J3D4J6D26J64K4J2A38-1M1-5M1-2A39F2H2A1H1M3
  A90K5A68K5A82K6D7H1D63H1D1-1D4-2D7-1D1-1D4-2D39H1D1-1D4-2D31H1D1-1D4-2D7-1D1-1D4-2D7H1D7-1D23H1
  D31H1D1-1D4-2D7H1D39H1D19-2L2H2D28-3H26-6D85Q1-2Q6-2K1D630K9D29-3D81P8-7F13X1F7X1-9X1F23-9F20-12
  F13-1F3-1F2-12D93G1-2D10-6G10-6D15X1D10-6D88T1-7D42J1-5K70-10G29P2-1G12-4G12-4G1-3G42-2G5-11H42
  K2-4H26-6H10K1-3H2G32H28-2H2K63-1K29-2K11-6K10-6K14-2P15W2X14-49I76X1-1a2I45X2a1J43M3J12M6L52-8
  L4J56-3J15-3J51R9a2-5T43-2T3M8-8K35M4S1P2U1-5G108H88I7J28P15S4X1R1L1K1I2A155B1J4A90J6A22-2A6-2
  A38-2A6-2A8-1A1-1A1-1A1-1A31-2A53-1A15-1A14-2A6-1A19-2A3-1A9-1A47D1A23F1D6F5G2H2F1H7F5J1-1O4A7F1
  -2A27-1H5L8-3A11B1C1D3F2H4K3L1N1P3Q1S1X1-15A18D2F7H1I4J1-15A57D2G1H1F15H1I2J1K3A48D1I1J4K1Q2-4
  A91D9F12A242F14A1D1A121D1F1D30F52G2H11I12K1L11P7R4S1A37D2a3-22A11-21A139F20G1A150F10A80D8F8A20G2
  F2H1D1A86D2F12H2F10G8H11J1K2G2H16I1J10K3J4K10L1K19L1K1L4K24P1A4L1A4L2A28L1A35L1A1L1A4L3A1K1A7L2
  A7F14A31L3A24L1A14L1H7I4M1J1M1L2F28J4F16D256F512G14H6I7J5I4J41P3J5K5P26-2P32-1W1P34T3P12U1P8S1
  T25Q4T15U1H47X1H47X1I13J3K1J3I4J6K2H107K7M2-5H45-1M1-5M1-2H54M2-7H1L1-14L1H23-9H7-1H7-1H7-1H7-1
  H7-1H7-1H7-1H7-1J32H24J4H2J19K1M10P7R2S5T5U1W3X11-34D26-1D89-12D214-26D12Z4A56D3F3D1A1-1A84F2-2
  A6F2A94F1-5A40J1S1T1-1A94-1A16D24L3W5H16J20a2-9Z1F16A29G2-1A36K12G1F15A28G2H1A50F15A12G4A47V1
  A119G4A99G2A31G1D6582W10G64A20902H22J8K8M1Q9S21T5W13X3D1165-3D18F2D16F1D12F1D3F1D1-9K48J300-20
  J32L2J18M8J28P6Q1M1K88-8H23I4J5I2J107L2Q1L2M2P12L10M1P3R1T1P2Q6T2U6X2U5W4a3-2X2-1X1-1X5a3-21X3W2
  P1M2L1J5H44W1-3K10-6I56-8J69R1-8J12-6K28Q2T2J84-11J1K29-3K78-1K11-4K2P31-1J55-9J14-2J10-2J4K28P4
  K67-24K5M23-10L6-2L6-2L6-9L7-1L7-1P48Q4P2U2W4-4Q80K46-2K10-6B11172-12K23-4K49-4B2048A6702M2F59K3
  -2H106-38A7-12A5-5D1A25-1A5-1A1-1A2-1A2-1A108L16X1-16A365X16A64-2A54-7X1E32A12F1G1X2F16H10-6A4J3
  P7Q2A21F2G2A10-1A19-1A4-4A3F1A1-1A135-2A1-1A94F2A94-3A6-2A6-2A6-2A3-3A7-1A7-10D3C1A3G12-1G26-1
  G19-1G2-1G15-2G14-34G123-5G3-4G45-3G9H75P2R2-1J12W1-3P1-47J46-130J29-3J49-15P28-4E31P1E4-9S3E27
  -5P43-5G30-1G1H36-4H14-42E38G2E38G80-2G10-6R36-4R36-4P40-8P52-11P1X11-1X15-1X7-1X2-1X11-1X15-1X7
  -1X2-3a52-12P311-9P22-10P8-24X6-1X42-1X9-69G6-2G1-1G44-1G2-3G1-2G1K22-1K9P63-8P9-48Q19-1Q2-5Q5
  I26K2-3I1J26-5J1-64M56-4Q2M2Q16-2Q46H4-1H2-5H8-1H3-1H27T2-2H3-4H9T1-7H9-7K32P32-32P39-4P12-9K54
  -3K29-2K27-5K8P18-7P4-12P7-80K73-55Q51-13Q51-7Q6T40-8T10-6a38-3a29-8a2-208K31-1W42-1W3-2W2-16a3
  -55a1Y3T40-8T42-22X26-38W28-20U23-9L78-4L30X6-9P1K66X1-10T1-2M25-7M10-6M53-1M14T3W1-8P39-9M73Q4
  P1W2M10P1Q5-1P20-11P18-1P43R1Y3-62Q7-1Q1-1Q4-1Q15-1Q11-6P59-5P10-6Q1P3-1P8-2P2-2P22-1P7-1P2-1P5
  -1T1P9-2P2-2P3-2Q1-6P1-5P7-2P7-3P5-11a10-1a1-2a1-1a38-1a10-1a1-2a1-1a4-1a10-1a2-8a2-29R90W1R1-1
  R1T1U1W2-30P72-8P10-166P54-2P18Q20-34P69-11P10-6R13-19M56U1X1-6M10-6a20-28Q26T1-2Q15-4Q16X7-185
  T60-100P83-12P1W7-2W1-2W8-1W2-1W30-1W2-2W12-9W10-70U8-2U46-2U11-27S72-8S52U2S23T1S5-13X16P57-7
  Y10-182a34-14a10-6R9-1R45-1R14-10R29-3R32-2R22-1R14-73S7-1S2-1S44-3S1-1S2-1S9-8S10-6T6-1T2-1T37
  -1T2-1T6-7T10-310T25-7Y17-1Y41-3Y28a1-85W1-15U50-13U1I879P42Q1-102I99P12-1I4P1-11Q196-2636X99-13
  K1071Y1U9Y29-10a3995-5Q583-6841a58-1734L569-7P31-1P10-4P2X79-1X10-6P30-2P6-10P70-10P10-1P7-1P21
  -5P19-432a58-198T91-101M69U6-4U1M47U9-7M17-64R1S1U2W1-11W2-14R6125T5U6-8R755W483-41a1W9-8935X4-1
  X7-1X2-1L2S285X4-15Y1-29U3-2Y1-14U4-8S396-2308P107-5P13-3P9-7P10-2P8-3932a250-6a436-76X46-2X23-9
  X116-60E246-10E39-2J1E180Q11X2-21H70-122Y20-12T20-12G87-9I18T7-135E85-1E71-1E2-2E1-2E2-2E4-1E12
  -1E1-1E4G1E2-1E65-1E4-2E8-1E7-1E28-1E4-1E5-1E1-3E7-1E338H2-2E290I2-2E50Q652-15Q5-1Q15-1104X31-6
  Y6-213R7-1R17-2R7-1R2-1R5-5Y62-33Y1-112U45-3U14-2U10-4U2-320X31-17U58-5U1-464Y42-214a43-4a1-480
  X7-1X4-1X2-1X15-1P197-2P16-41R75U1-4R10-4R2-785T68-76U61-194M4-1M27-1M2-1M1-2M1-1M10-1M4-1M1-1M1
  -6M1-4M1-1M1-1M1-1M3-1M2-1M1-2M1-1M1-1M1-1M1-1M1-1M2-1M1-2M4-1M7-1M4-1M4-1M1-1M10-1M17-5M3-1M5-1
  M17-52M2-270J44-4J100-12L15-2L14P1-1L15-1L15P22-10K11P2W3K31T1L1K1L11K1L1K1L2K1L3K1L3K5L8K1L7K1
  L10M2U1W3L9K1L1K2L2K1L10K4L2K1L10R18W1-56L26K1L2-13K34L9R1-4K9-7L2-14S6-154L33P12Q3L6P1L70P1Q2
  L20P12L37P1L5P4Q5P12L17P7Q8L63P1L1P1L182P1L4P2Q1L62P2M4P7Q5L24P18R1P41R1P86L5M1L16M1L3M1L1M1L1M1
  L1M1L3M1L6M2L4M1L1M2L4M1L12P2Q2L11P48L70P10Q1R2S2U1W2-4Y1X3P13-3P4R3S2T1U1W2-3L116Y3-4Y5P85T4Y1
  -6U12-4X1-15P12-4P56-8P10-6P40-8P30-2W2a10-4a2-62S12W1U3Q9R6S1R8S8R1S2R12U1R12S1T3R15S13T5U1W1T4
  W2X1T1U1T4Q5R13S6T11W2U6W3U2T10U6Q1T2U8W1X1U3S23T25U84-12T14-2U4W1Y3U3X2-3U3W4Y2a1-5a1U6W19X4Y3
  W7X4Y3a1Y1W3X3a1-7Y2W7X3Y2a1-2a1X8Y1a1-6X7Y2-7W147-1W55a37W10-1028B2E42711W7X2-32K4149X4Y1-6L222
  -2Q5762-14S7473-15Z622-2466E542-1504B2W4939-5Y4192-56398B2-65534B2-65534B2-65534B2-65534B2-65534
  B2-65534B2-65534B2-65534B2-65534B2-65534B2-1E1-30E96-128G240-65038B131074"

/-- The position of a version among all, by its name in the normal form: `3.0` or `v30`. -/
def version? (name : String) : Option Nat :=
  versions.findIdx? fun v => name = v ∨ name = String.ofList ('v' :: v.toList.filter (· ≠ '.'))

def letterPosition (c : Char) : Nat :=
  if c ≤ 'Z' then c.toNat - 'A'.toNat else c.toNat - 'a'.toNat + 26

def age? (name : String) : Option Ranges :=
  (version? name).map fun n =>
    Run.select (fun value => value.all fun c => letterPosition c ≤ n) ageRuns

end MagicRules.Unicode
