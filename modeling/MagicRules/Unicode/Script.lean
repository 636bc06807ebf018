import MagicRules.Unicode.Name
import MagicRules.Unicode.Table

/-!
# Scripts

Every character belongs to one script, named by four letters, or to none. Some characters are
used with several scripts; these are listed by the scripts that they are used with, and every
other character is used with its own.
-/

namespace MagicRules.Unicode

def scriptRuns : List Run := runs
  "Zyyy65Latn26Zyyy6Latn26Zyyy47Latn1Zyyy15Latn1Zyyy5Latn23Zyyy1Latn31Zyyy1Latn449Zyyy39Latn5Zyyy5
  Bopo2Zyyy20Zinh112Grek4Zyyy1Grek3-2Grek4Zyyy1Grek1-4Grek1Zyyy1Grek1Zyyy1Grek3-1Grek1-1Grek20-1
  Grek63Copt14Grek16Cyrl133Zinh2Cyrl169-1Armn38-2Armn50-2Armn3-1Hebr55-8Hebr27-4Hebr6-11Arab5Zyyy1
  Arab6Zyyy1Arab14Zyyy1Arab3Zyyy1Arab32Zyyy1Arab10Zinh11Arab26Zinh1Arab108Zyyy1Arab34Syrc14-1
  Syrc60-2Syrc3Arab48Thaa50-14Nkoo59-2Nkoo3Samr46-2Samr15-1Mand28-2Mand1-1Syrc11-5Arab31-1Arab2-5
  Arab75Zyyy1Arab29Deva81Zinh4Deva15Zyyy2Deva26Beng4-1Beng8-2Beng2-2Beng22-1Beng7-1Beng1-3Beng4-2
  Beng9-2Beng2-2Beng4-8Beng1-4Beng2-1Beng5-2Beng25-2Guru3-1Guru6-4Guru2-2Guru22-1Guru7-1Guru2-1
  Guru2-1Guru2-2Guru1-1Guru5-4Guru2-2Guru3-3Guru1-7Guru4-1Guru1-7Guru17-10Gujr3-1Gujr9-1Gujr3-1
  Gujr22-1Gujr7-1Gujr2-1Gujr5-2Gujr10-1Gujr3-1Gujr3-2Gujr1-15Gujr4-2Gujr12-7Gujr7-1Orya3-1Orya8-2
  Orya2-2Orya22-1Orya7-1Orya2-1Orya5-2Orya9-2Orya2-2Orya3-7Orya3-4Orya2-1Orya5-2Orya18-10Taml2-1
  Taml6-3Taml3-1Taml4-3Taml2-1Taml1-1Taml2-3Taml2-3Taml3-3Taml12-4Taml5-3Taml3-1Taml4-2Taml1-6
  Taml1-14Taml21-5Telu13-1Telu3-1Telu23-1Telu16-2Telu9-1Telu3-1Telu4-7Telu2-1Telu3-2Telu1-2Telu4-2
  Telu10-7Telu9Knda13-1Knda3-1Knda23-1Knda10-1Knda5-2Knda9-1Knda3-1Knda4-7Knda2-6Knda2-1Knda4-2
  Knda10-1Knda3-12Mlym13-1Mlym3-1Mlym51-1Mlym3-1Mlym6-4Mlym16-2Mlym26-1Sinh3-1Sinh18-3Sinh24-1
  Sinh9-1Sinh1-2Sinh7-3Sinh1-4Sinh6-1Sinh1-1Sinh8-6Sinh10-2Sinh3-12Thai58-4Zyyy1Thai28-37Laoo2-1
  Laoo1-1Laoo5-1Laoo24-1Laoo1-1Laoo23-2Laoo5-1Laoo1-1Laoo7-1Laoo10-2Laoo4-32Tibt72-1Tibt36-4Tibt39
  -1Tibt36-1Tibt15-1Tibt7Zyyy4Tibt2-37Mymr160Geor38-1Geor1-5Geor1-2Geor43Zyyy1Geor4Hang256Ethi73-1
  Ethi4-2Ethi7-1Ethi1-1Ethi4-2Ethi41-1Ethi4-2Ethi33-1Ethi4-2Ethi7-1Ethi1-1Ethi4-2Ethi15-1Ethi57-1
  Ethi4-2Ethi67-2Ethi32-3Ethi26-6Cher86-2Cher6-2Cans640Ogam29-3Runr75Zyyy3Runr11-7Tglg22-9Tglg1
  Hano21Zyyy2-9Buhd20-12Tagb13-1Tagb3-1Tagb2-12Khmr94-2Khmr10-6Khmr10-6Mong2Zyyy2Mong1Zyyy1Mong20
  -6Mong89-7Mong43-5Cans70-10Limb31-1Limb12-4Limb12-4Limb1-3Limb12Tale30-2Tale5-11Talu44-4Talu26-6
  Talu11-3Talu2Khmr32Bugi28-2Bugi2Lana63-1Lana29-2Lana11-6Lana10-6Lana14-2Zinh31-49Bali77-1Bali50
  Sund64Batk52-8Batk4Lepc56-3Lepc15-3Lepc3Olck48Cyrl11-5Geor43-2Geor3Sund8-8Zinh3Zyyy1Zinh13Zyyy1
  Zinh7Zyyy4Zinh1Zyyy6Zinh1Zyyy3Zinh2Zyyy1-5Latn38Grek5Cyrl1Latn49Grek5Latn4Grek5Latn13Cyrl1Latn70
  Grek1Zinh64Latn256Grek22-2Grek6-2Grek38-2Grek6-2Grek8-1Grek1-1Grek1-1Grek1-1Grek31-2Grek53-1
  Grek15-1Grek14-2Grek6-1Grek19-2Grek3-1Grek9-1Zyyy12Zinh2Zyyy87-1Zyyy11Latn1-2Zyyy11Latn1Zyyy15-1
  Latn13-3Zyyy33-15Zinh33-15Zyyy38Grek1Zyyy3Latn2Zyyy6Latn1Zyyy27Latn1Zyyy17Latn41Zyyy3-4Zyyy666
  -22Zyyy11-21Zyyy928Brai256Zyyy628-2Zyyy32-1Zyyy105Glag96Latn32Copt116-5Copt7Geor38-1Geor1-5Geor1
  -2Tfng56-7Tfng2-14Tfng1Ethi23-9Ethi7-1Ethi7-1Ethi7-1Ethi7-1Ethi7-1Ethi7-1Ethi7-1Ethi7-1Cyrl32
  Zyyy94-34Hani26-1Hani89-12Hani214-26Zyyy21Hani1Zyyy1Hani1Zyyy25Hani9Zinh4Hang2Zyyy8Hani4Zyyy4-1
  Hira86-2Zinh2Zyyy2Hira3Zyyy1Kana90Zyyy2Kana3-5Bopo43-1Hang94-1Zyyy16Bopo32Zyyy38-9Zyyy1Kana16
  Hang31-1Zyyy64Hang31Zyyy81Kana47Zyyy1Kana88Zyyy168Hani6592Zyyy64Hani20992Yiii1165-3Yiii55-9
  Lisu48Vaii300-20Cyrl96Bamu88-8Zyyy34Latn102Zyyy3Latn67-2Latn2-1Latn1-1Latn8-21Latn14Sylo45-3
  Zyyy10-6Phag56-8Saur70-8Saur12-6Deva32Kali46Zyyy1Kali1Rjng36-11Rjng1Hang29-3Java78-1Zyyy1Java10
  -4Java2Mymr31-1Cham55-9Cham14-2Cham10-2Cham4Mymr32Tavt67-24Tavt5Mtei23-10Ethi6-2Ethi6-2Ethi6-9
  Ethi7-1Ethi7-1Latn43Zyyy1Latn9Grek1Latn4Zyyy2-4Cher80Mtei46-2Mtei10-6Hang11172-12Hang23-4Hang49
  -8452Hani366-2Hani106-38Latn7-12Armn5-5Hebr26-1Hebr5-1Hebr1-1Hebr2-1Hebr2-1Hebr10Arab115-16
  Arab363Zyyy2Arab80-2Arab54-7Arab1-32Arab16Zinh16Zyyy10-6Zinh14Cyrl2Zyyy35-1Zyyy19-1Zyyy4-4Arab5
  -1Arab135-2Zyyy1-1Zyyy32Latn26Zyyy6Latn26Zyyy11Kana10Zyyy1Kana45Zyyy2Hang31-3Hang6-2Hang6-2Hang6
  -2Hang3-3Zyyy7-1Zyyy7-10Zyyy5-2Linb12-1Linb26-1Linb19-1Linb2-1Linb15-2Linb14-34Linb123-5Zyyy3-4
  Zyyy45-3Zyyy9Grek79-1Zyyy13-3Grek1-47Zyyy45Zinh1-130Lyci29-3Cari49-15Zinh1Zyyy27-4Ital36-9Ital3
  Goth27-5Perm43-5Ugar30-1Ugar1Xpeo36-4Xpeo14-42Dsrt80Shaw48Osma30-2Osma10-6Osge36-4Osge36-4Elba40
  -8Aghb52-11Aghb1Vith11-1Vith15-1Vith7-1Vith2-1Vith11-1Vith15-1Vith7-1Vith2-3Todr52-12Lina311-9
  Lina22-10Lina8-24Latn6-1Latn42-1Latn9-69Cprt6-2Cprt1-1Cprt44-1Cprt2-3Cprt1-2Cprt1Armi22-1Armi9
  Palm32Nbat31-8Nbat9-48Hatr19-1Hatr2-5Hatr5Phnx28-3Phnx1Lydi26-5Lydi1-64Mero32Merc24-4Merc20-2
  Merc46Khar4-1Khar2-5Khar8-1Khar3-1Khar29-2Khar3-4Khar10-7Khar9-7Sarb32Narb32-32Mani39-4Mani12-9
  Avst54-3Avst7Prti22-2Prti8Phli19-5Phli8Phlp18-7Phlp4-12Phlp7-80Orkh73-55Hung51-13Hung51-7Hung6
  Rohg40-8Rohg10-6Gara38-3Gara29-8Gara2-208Arab31-1Yezi42-1Yezi3-2Yezi2-16Arab3-55Arab4Sogo40-8
  Sogd42-22Ougr26-38Chrs28-20Elym23-9Brah78-4Brah36-9Brah1Kthi67-10Kthi1-2Sora25-7Sora10-6Cakm53-1
  Cakm18-8Mahj39-9Shrd96-1Sinh20-11Khoj18-1Khoj47-62Mult7-1Mult1-1Mult4-1Mult15-1Mult11-6Sind59-5
  Sind10-6Gran4-1Gran8-2Gran2-2Gran22-1Gran7-1Gran2-1Gran5-1Zinh1Gran9-2Gran2-2Gran3-2Gran1-6Gran1
  -5Gran7-2Gran7-3Gran5-11Tutg10-1Tutg1-2Tutg1-1Tutg38-1Tutg10-1Tutg1-2Tutg1-1Tutg4-1Tutg10-1Tutg2
  -8Tutg2-29Newa92-1Newa5-30Tirh72-8Tirh10-166Sidd54-2Sidd38-34Modi69-11Modi10-6Mong13-19Takr58-6
  Takr10-6Mymr20-28Ahom27-2Ahom15-4Ahom23-185Dogr60-100Wara83-12Wara1Diak7-2Diak1-2Diak8-1Diak2-1
  Diak30-1Diak2-2Diak12-9Diak10-70Nand8-2Nand46-2Nand11-27Zanb72-8Soyo83-13Cans16Pauc57-7Deva10
  -182Sunu34-14Sunu10-6Bhks9-1Bhks45-1Bhks14-10Bhks29-3Marc32-2Marc22-1Marc14-73Gonm7-1Gonm2-1
  Gonm44-3Gonm1-1Gonm2-1Gonm9-8Gonm10-6Gong6-1Gong2-1Gong37-1Gong2-1Gong6-7Gong10-310Maka25-7
  Kawi17-1Kawi41-3Kawi29-85Lisu1-15Taml50-13Taml1Xsux922-102Xsux111-1Xsux5-11Xsux196-2636Cpmn99-13
  Egyp1110-10Egyp3995-5Hluw583-6841Gukh58-1734Bamu569-7Mroo31-1Mroo10-4Mroo2Tnsa79-1Tnsa10-6Bass30
  -2Bass6-10Hmng70-10Hmng10-1Hmng7-1Hmng21-5Hmng19-432Krai58-198Medf91-101Plrd75-4Plrd57-7Plrd17
  -64Tang1Nshu1Hani2Kits1-11Hani2-14Tang6136-8Tang768Kits470-41Kits1Tang9-8935Kana4-1Kana7-1Kana2
  -1Kana1Hira287Kana3-15Hira1-29Hira3-2Kana1-14Kana4-8Nshu396-2308Dupl107-5Dupl13-3Dupl9-7Dupl10-2
  Dupl4Zyyy4-3932Zyyy250-6Zyyy436-76Zinh46-2Zinh23-9Zyyy116-60Zyyy246-10Zyyy39-2Zyyy62Zinh3Zyyy17
  Zinh8Zyyy2Zinh7Zyyy30Zinh4Zyyy61-21Grek70-122Zyyy20-12Zyyy20-12Zyyy87-9Zyyy25-135Zyyy85-1Zyyy71
  -1Zyyy2-2Zyyy1-2Zyyy2-2Zyyy4-1Zyyy12-1Zyyy1-1Zyyy7-1Zyyy65-1Zyyy4-2Zyyy8-1Zyyy7-1Zyyy28-1Zyyy4-1
  Zyyy5-1Zyyy1-3Zyyy7-1Zyyy340-2Zyyy292-2Zyyy50Sgnw652-15Sgnw5-1Sgnw15-1104Latn31-6Latn6-213Glag7
  -1Glag17-2Glag7-1Glag2-1Glag5-5Cyrl62-33Cyrl1-112Hmnp45-3Hmnp14-2Hmnp10-4Hmnp2-320Toto31-17
  Wcho58-5Wcho1-464Nagm42-214Onao43-4Onao1-480Ethi7-1Ethi4-1Ethi2-1Ethi15-1Mend197-2Mend16-41
  Adlm76-4Adlm10-4Adlm2-785Zyyy68-76Zyyy61-194Arab4-1Arab27-1Arab2-1Arab1-2Arab1-1Arab10-1Arab4-1
  Arab1-1Arab1-6Arab1-4Arab1-1Arab1-1Arab1-1Arab3-1Arab2-1Arab1-2Arab1-1Arab1-1Arab1-1Arab1-1Arab1
  -1Arab2-1Arab1-2Arab4-1Arab7-1Arab4-1Arab4-1Arab1-1Arab10-1Arab17-5Arab3-1Arab5-1Arab17-52Arab2
  -270Zyyy44-4Zyyy100-12Zyyy15-2Zyyy15-1Zyyy15-1Zyyy37-10Zyyy174-56Zyyy26Hira1Zyyy2-13Zyyy44-4
  Zyyy9-7Zyyy2-14Zyyy6-154Zyyy984-4Zyyy17-3Zyyy13-3Zyyy119-4Zyyy95-6Zyyy12-4Zyyy1-15Zyyy12-4Zyyy56
  -8Zyyy10-6Zyyy40-8Zyyy30-2Zyyy12-4Zyyy2-62Zyyy340-12Zyyy14-2Zyyy13-3Zyyy10-5Zyyy56-7Zyyy15-2
  Zyyy11-6Zyyy9-7Zyyy147-1Zyyy102-1030Hani42720-32Hani4154-6Hani222-2Hani5762-14Hani7473-15Hani622
  -2466Hani542-1506Hani4939-5Hani4192-711761Zyyy1-30Zyyy96-128Zinh240"

/-- Characters that are not used with their own script alone, by the scripts they are used with. -/
def scriptUseRuns : List Run := runs
  "-183AvstCariCoptDuplElbaGeorGlagGongGothGrekHaniLatnLydiMahjPermShaw1-516
  BengCyrlDevaLatnLisuThaiToto1-10BopoLatn1-1BopoLatn3-1LatnLisu1-9LatnThai1-1BopoLatn1-38
  CherCoptCyrlGrekLatnPermSunuTale1CherCyrlGrekLatnOsgeSunuTaleTodr1CherCyrlLatnTfng1
  GlagLatnSunuSyrcThai1AghbCherCoptCyrlGothGrekLatnOsgeSyrcTfngTodr1CoptElbaGlagGothKanaLatn1
  CyrlGrekLatnPermTfng1CoptDuplHebrLatnPermSyrcTaleTfngTodr1
  ArmnCyrlDuplGothGrekHebrLatnPermSyrcTaleTfng1LatnTfng1DuplLatnSyrc1CherCyrlLatnOsge1
  CherLatnTale1LatnSunu1EthiLatn1-1LatnSunu1CyrlLatnTodr1-1GrekLatnPermTodr1-15
  CherDuplKanaLatnSyrcTfng1CherDuplLatnSyrc1LatnSyrc1-7LatnSunuSyrc1LatnSyrc1-1CherLatnSyrc1
  AghbCherGothLatnSunuSyrcThai1-16Grek1-2Grek1-18LatnOsge1-5AghbLatnTodr1-4Latn13-4CoptGrek2-269
  CyrlPerm1CyrlGlag1CyrlLatn2CyrlGlag1-257ArmnGeorGlag1-130ArabGaraNkooRohgSyrcThaaYezi1-14
  ArabGaraNkooRohgSyrcThaaYezi1ArabSyrcThaa1-2AdlmArabGaraNkooRohgSyrcThaaYezi1-32
  AdlmArabMandManiOugrPhlpRohgSogdSyrc1-10ArabSyrc11-10ArabThaaYezi10-6ArabSyrc1-99ArabRohg1-636
  BengDevaGranGujrGuruKndaLatnMlymNandNewaOryaShrdTamlTeluTirh1
  BengDevaGranGujrGuruKndaLatnMlymNewaOryaTamlTeluTirh1-17
  BengDevaDogrGongGonmGranGujrGuruKndaMahjMlymNandOnaoOryaSindSinhSyloTakrTamlTeluTirh1
  BengDevaDogrGongGonmGranGujrGukhGuruKndaLimbMahjMlymNandOnaoOryaSindSinhSyloTakrTamlTeluTirh1
  DevaDogrKthiMahj10-118BengCakmSylo10-118GuruMult10-118GujrKhoj10-246GranTaml14-242KndaNandTutg10
  -848CakmMymrTale10-177GeorGlagLatn1-1519Runr3-71BuhdHanoTagbTglg2-203MongPhag2-1MongPhag1-1226
  BengDevaGranKnda1Deva1BengDevaGranKnda1DevaGranKnda1Deva1BengDevaNewaTeluTirh1BengDevaTelu1
  DevaNewaShrd1BengDevaNewaTelu1DevaShrd1DevaKndaMlymOryaTamlTelu1Deva1DevaShrd2Deva2DevaShrd1
  BengDeva1DevaNewaTirh1Deva6DevaNandNewa1BengDevaShrd1DevaNewa1Deva1BengDevaNewaShrd1Deva4
  BengDevaGranKndaMlymNandOryaSinhTeluTirhTutg1DevaGran1DevaGranKndaTutg1BengDeva2Beng1DevaGran2
  Nand1-197Grek2-54CyrlLatnSyrc1-1Syrc1-564LatnMongPhag1-31AdlmArab1-10CariGeorGlagHungLyciOrkh1-2
  CariGrekHungMero1-146DevaGranLatn1-3366CoptLatn1-24AvstOrkh1AvstCariGeorHungKthiLydiSamr1-10
  Dupl1-4AdlmArabHung1-1CyrlGlag1-428HaniTang16-1BopoHangHaniHiraKanaMongYiii1
  BopoHangHaniHiraKanaMongPhagYiii1BopoHangHaniHiraKana1-2Hani1-1BopoHangHaniHiraKanaMongTibtYiii2
  BopoHangHaniHiraKanaLisuMongTibtYiii2BopoHangHaniHiraKanaYiii6-1BopoHangHaniHiraKana1
  BopoHangHaniHiraKanaYiii8BopoHangHaniHiraKana4-10BopoHani4-2BopoHangHaniHiraKana1HiraKana5-1
  BopoHangHaniHiraKana1-4HaniHiraKana2Hani2-89HiraKana4-3HiraKana1-90BopoHangHaniHiraKanaYiii1
  HiraKana1-147Hani16-32Hani38-9HaniTang1-48Hani40-56Hani49-15Hani12-51Hani1-88Hani25-10Hani5-96
  Hani31-29296CyrlGlag1-144HaniLatn8-296
  DevaDogrGujrGuruKhojKndaKthiMahjMlymModiNandShrdSindTakrTirhTutg3
  DevaDogrGujrGuruKhojKndaKthiMahjModiNandShrdSindTakrTirhTutg3
  DevaDogrGujrGuruKhojKthiMahjModiSindTakrTirh2DevaDogrGujrGuruKhojKthiMahjModiShrdSindTakrTirh1
  DevaDogrGujrGuruKhojKthiMahjModiSindTakrTirh1-183BengDevaTutg1-1DevaTaml1-58KaliLatnMymr1-160
  BugiJava1-21358ArabNkoo2-178ArabThaa1-10ArabThaa1-71BopoHangHaniHiraKana2-282
  BopoHangHaniHiraKanaYiii5-10HiraKana1-45HiraKana2-352CpmnCprtLinb2CprtLinb1-4CprtLinaLinb45-3
  CprtLinb9-416ArabCopt28-2038ManiOugr1-2062GranTaml1-1GranTaml1-55GranTaml2-3219GranTaml2-1
  GranTaml1-40140Dupl4-5820Hani18-7902Hani2"

def scriptNames : String :=
  "Adlm Adlam Aghb Caucasian_Albanian Ahom Ahom Arab Arabic Armi Imperial_Aramaic Armn Armenian
  Avst Avestan Bali Balinese Bamu Bamum Bass Bassa_Vah Batk Batak Beng Bengali Bhks Bhaiksuki
  Bopo Bopomofo Brah Brahmi Brai Braille Bugi Buginese Buhd Buhid Cakm Chakma
  Cans Canadian_Aboriginal Cari Carian Cham Cham Cher Cherokee Chrs Chorasmian Copt Coptic
  Cpmn Cypro_Minoan Cprt Cypriot Cyrl Cyrillic Deva Devanagari Diak Dives_Akuru Dogr Dogra
  Dsrt Deseret Dupl Duployan Egyp Egyptian_Hieroglyphs Elba Elbasan Elym Elymaic Ethi Ethiopic
  Gara Garay Geor Georgian Glag Glagolitic Gong Gunjala_Gondi Gonm Masaram_Gondi Goth Gothic
  Gran Grantha Grek Greek Gujr Gujarati Gukh Gurung_Khema Guru Gurmukhi Hang Hangul Hani Han
  Hano Hanunoo Hatr Hatran Hebr Hebrew Hira Hiragana Hluw Anatolian_Hieroglyphs Hmng Pahawh_Hmong
  Hmnp Nyiakeng_Puachue_Hmong Hung Old_Hungarian Ital Old_Italic Java Javanese Kali Kayah_Li
  Kana Katakana Kawi Kawi Khar Kharoshthi Khmr Khmer Khoj Khojki Kits Khitan_Small_Script
  Knda Kannada Krai Kirat_Rai Kthi Kaithi Lana Tai_Tham Laoo Lao Latn Latin Lepc Lepcha Limb Limbu
  Lina Linear_A Linb Linear_B Lisu Lisu Lyci Lycian Lydi Lydian Mahj Mahajani Maka Makasar
  Mand Mandaic Mani Manichaean Marc Marchen Medf Medefaidrin Mend Mende_Kikakui
  Merc Meroitic_Cursive Mero Meroitic_Hieroglyphs Mlym Malayalam Modi Modi Mong Mongolian Mroo Mro
  Mtei Meetei_Mayek Mult Multani Mymr Myanmar Nagm Nag_Mundari Nand Nandinagari
  Narb Old_North_Arabian Nbat Nabataean Newa Newa Nkoo Nko Nshu Nushu Ogam Ogham Olck Ol_Chiki
  Onao Ol_Onal Orkh Old_Turkic Orya Oriya Osge Osage Osma Osmanya Ougr Old_Uyghur Palm Palmyrene
  Pauc Pau_Cin_Hau Perm Old_Permic Phag Phags_Pa Phli Inscriptional_Pahlavi Phlp Psalter_Pahlavi
  Phnx Phoenician Plrd Miao Prti Inscriptional_Parthian Rjng Rejang Rohg Hanifi_Rohingya
  Runr Runic Samr Samaritan Sarb Old_South_Arabian Saur Saurashtra Sgnw SignWriting Shaw Shavian
  Shrd Sharada Sidd Siddham Sind Khudawadi Sinh Sinhala Sogd Sogdian Sogo Old_Sogdian
  Sora Sora_Sompeng Soyo Soyombo Sund Sundanese Sunu Sunuwar Sylo Syloti_Nagri Syrc Syriac
  Tagb Tagbanwa Takr Takri Tale Tai_Le Talu New_Tai_Lue Taml Tamil Tang Tangut Tavt Tai_Viet
  Telu Telugu Tfng Tifinagh Tglg Tagalog Thaa Thaana Thai Thai Tibt Tibetan Tirh Tirhuta
  Tnsa Tangsa Todr Todhri Toto Toto Tutg Tulu_Tigalari Ugar Ugaritic Vaii Vai Vith Vithkuqi
  Wara Warang_Citi Wcho Wancho Xpeo Old_Persian Xsux Cuneiform Yezi Yezidi Yiii Yi
  Zanb Zanabazar_Square Zinh Inherited Zyyy Common"

def findScript? (name : String) : List Text → Option String
  | letters :: long :: rest =>
    if name = normalName letters ∨ name = normalName long then some (String.ofList letters)
    else findScript? name rest
  | _ => none

/-- The four letters of a script, by its name in the normal form. Two scripts have letters that
were once given to them. -/
def script? (name : String) : Option String :=
  match name with
  | "qaac" => some "Copt"
  | "qaai" => some "Zinh"
  | _ => findScript? name
    ((Text.splitAt ' ' (scriptNames.toList.filter (· ≠ '\n'))).filter (· ≠ []))

def script (letters : String) : Ranges := Run.withValue letters scriptRuns

def isAmong (letters : Text) : Text → Bool
  | a :: b :: c :: d :: rest => letters = [a, b, c, d] || isAmong letters rest
  | _ => false

def usedWithScript (letters : String) : Ranges :=
  ((script letters).diff (Run.select (fun _ => true) scriptUseRuns)).union
    (Run.select (isAmong letters.toList) scriptUseRuns)

end MagicRules.Unicode
