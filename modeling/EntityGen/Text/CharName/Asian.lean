/-! Names of characters: India and the rest of Asia. -/

namespace EntityGen.Text.CharName

/-- Names by code point, in the form that `CharName.find?` reads. -/
def asianNames : List String := [
  "@00900aaDEVANAGARI SIGN INVERTED CANDRABINDUaqCANDRABINDUaqANUSVARAaqVISARGAalLETTER SHORT Aas",
  "AatAasIatIasUatUasVOCALIC RbaLasCANDRA EasSHORT EasEasAIasCANDRA OasSHORT OasOasAUasKAatHAasGA",
  "atHAasNGAasCAatHAasJAatHAasNYAasTTAauHAasDDAauHAasNNAasTAatHAasDAatHAasNAatNNAasPAatHAasBAatHA",
  "asMAasYAasRAatRAasLAatLAauLAasVAasSHAatSAatAasHAalVOWEL SIGN OEaxOEalSIGN NUKTAaqAVAGRAHAalVOW",
  "EL SIGN AAawIaxIawUaxUawVOCALIC RbfRawCANDRA EawSHORT EawEawAIawCANDRA OawSHORT OawOawAUalSIGN",
  " VIRAMAalVOWEL SIGN PRISHTHAMATRA EawAWalOMalSTRESS SIGN UDATTAaxANUDATTAalGRAVE ACCENTalACUTE",
  " ACCENTalVOWEL SIGN CANDRA LONG EawUEaxUEalLETTER QAasKHHAasGHHAasZAasDDDHAasRHAasFAasYYAasVOC",
  "ALIC RRbaLLalVOWEL SIGN VOCALIC LbfLalDANDAamOUBLE DANDAamIGIT ZEROarONEarTWOasHREEarFOURasIVE",
  "arSIXasEVENarEIGHTarNINEalABBREVIATION SIGNalSIGN HIGH SPACING DOTalLETTER CANDRA AasOEatOEasA",
  "WasUEatUEasMARWARI DDAasZHAasHEAVY YAasGGAasJJAasGLOTTAL STOPasDDDAasBBAaaBENGALI ANJIaiSIGN C",
  "ANDRABINDUanANUSVARAanVISARGA@00985aiLETTER AaqAapIaqIapUaqUapVOCALIC RaxL@0098FapEapAI@00993a",
  "pOapAUapKAaqHAapGAaqHAapNGAapCAaqHAapJAaqHAapNYAapTTAarHAapDDAarHAapNNAapTAaqHAapDAaqHAapNA@00",
  "9AAapPAaqHAapBAaqHAapMAapYAapRA@009B2apLA@009B6apSHAaqSAaqAapHA@009BCaiSIGN NUKTAanAVAGRAHAaiV",
  "OWEL SIGN AAatIauIatUauUatVOCALIC RbcR@009C7atEatAI@009CBatOatAUaiSIGN VIRAMAaiLETTER KHANDA T",
  "A@009D7aiAU LENGTH MARK@009DCaiLETTER RRAaqHA@009DFapYYAapVOCALIC RRaxLLaiVOWEL SIGN VOCALIC L",
  "bcL@009E6aiDIGIT ZEROaoONEaoTWOapHREEaoFOURapIVEaoSIXapEVENaoEIGHTaoNINEaiLETTER RA WITH MIDDL",
  "E DIAGONALaxLOWER DIAGONALaiRUPEE MARKaoSIGNaiCURRENCY NUMERATOR ONEbbTWObcHREEbbFOURbbONE LES",
  "S THAN THE DENOMINATORarDENOMINATOR SIXTEENaiISSHARaiGANDA MARKaiLETTER VEDIC ANUSVARAaiABBREV",
  "IATION SIGNaiSANDHI MARK@00A01aaGURMUKHI SIGN ADAK BINDIaoBINDIaoVISARGA@00A05ajLETTER AarAaqI",
  "arIaqUarU@00A0FaqEEaqAI@00A13aqOOaqAUaqKAarHAaqGAarHAaqNGAaqCAarHAaqJAarHAaqNYAaqTTAasHAaqDDAa",
  "sHAaqNNAaqTAarHAaqDAarHAaqNA@00A2AaqPAarHAaqBAarHAaqMAaqYAaqRA@00A32aqLAarLA@00A35aqVAaqSHA@00",
  "A38arAaqHA@00A3CajSIGN NUKTA@00A3EajVOWEL SIGN AAauIavIauUavU@00A47auEEauAI@00A4BauOOauAUajSIG",
  "N VIRAMA@00A51aoUDAAT@00A59ajLETTER KHHAaqGHHAaqZAaqRRA@00A5EaqFA@00A66ajDIGIT ZEROapONEapTWOa",
  "qHREEapFOURaqIVEapSIXaqEVENapEIGHTapNINEajTIPPIajADDAKajIRIajURAajEK ONKARajSIGN YAKASHajABBRE",
  "VIATION SIGN@00A81acJARATI SIGN CANDRABINDUaoANUSVARAaoVISARGA@00A85ajLETTER AarAaqIarIaqUarUa",
  "qVOCALIC RayLajVOWEL CANDRA E@00A8FajLETTER EaqAIajVOWEL CANDRA O@00A93ajLETTER OaqAUaqKAarHAa",
  "qGAarHAaqNGAaqCAarHAaqJAarHAaqNYAaqTTAasHAaqDDAasHAaqNNAaqTAarHAaqDAarHAaqNA@00AAAaqPAarHAaqBA",
  "arHAaqMAaqYAaqRA@00AB2aqLAarLA@00AB5aqVAaqSHAarSAarAaqHA@00ABCajSIGN NUKTAaoAVAGRAHAajVOWEL SI",
  "GN AAauIavIauUavUauVOCALIC RbdRauCANDRA E@00AC7auEauAIauCANDRA O@00ACBauOauAUajSIGN VIRAMA@00A",
  "D0ajOM@00AE0ajLETTER VOCALIC RRayLLajVOWEL SIGN VOCALIC LbdL@00AE6ajDIGIT ZEROapONEapTWOaqHREE",
  "apFOURaqIVEapSIXaqEVENapEIGHTapNINEajABBREVIATION SIGNajRUPEE SIGN@00AF9ajLETTER ZHAajSIGN SUK",
  "UNapHADDAaoMADDAHaoTHREE-DOT NUKTA ABOVEaoCIRCLE NUKTA ABOVEaoTWO-CIRCLE NUKTA ABOVE@00B01aaOR",
  "IYA SIGN CANDRABINDUalANUSVARAalVISARGA@00B05agLETTER AaoAanIaoIanUaoUanVOCALIC RavL@00B0FanEa",
  "nAI@00B13anOanAUanKAaoHAanGAaoHAanNGAanCAaoHAanJAaoHAanNYAanTTAapHAanDDAapHAanNNAanTAaoHAanDAa",
  "oHAanNA@00B2AanPAaoHAanBAaoHAanMAanYAanRA@00B32anLAaoLA@00B35anVAanSHAaoSAaoAanHA@00B3CagSIGN ",
  "NUKTAalAVAGRAHAagVOWEL SIGN AAarIasIarUasUarVOCALIC RbaR@00B47arEarAI@00B4BarOarAUagSIGN VIRAM",
  "A@00B55alOVERLINEagAI LENGTH MARKahU LENGTH MARK@00B5CagLETTER RRAaoHA@00B5FanYYAanVOCALIC RRa",
  "vLLagVOWEL SIGN VOCALIC LbaL@00B66agDIGIT ZEROamONEamTWOanHREEamFOURanIVEamSIXanEVENamEIGHTamN",
  "INEagISSHARagLETTER WAagFRACTION ONE QUARTERatHALFapTHREE QUARTERSapONE SIXTEENTHatEIGHTHapTHR",
  "EE SIXTEENTHS@00B82aaTAMIL SIGN ANUSVARAalVISARGA@00B85agLETTER AaoAanIaoIanUaoU@00B8EanEaoEan",
  "AI@00B92anOaoOanAUanKA@00B99anNGAanCA@00B9CanJA@00B9EanNYAanTTA@00BA3anNNAanTA@00BA8anNAaoNNAa",
  "nPA@00BAEanMAanYAanRAaoRAanLAaoLAapLAanVAanSHAaoSAaoAanHA@00BBEagVOWEL SIGN AAarIasIarUasU@00B",
  "C6arEasEarAI@00BCAarOasOarAUagSIGN VIRAMA@00BD0agOM@00BD7agAU LENGTH MARK@00BE6agDIGIT ZEROamO",
  "NEamTWOanHREEamFOURanIVEamSIXanEVENamEIGHTamNINEagNUMBER TENanONE HUNDREDarTHOUSANDagDAY SIGNa",
  "gMONTH SIGNagYEAR SIGNagDEBIT SIGNagCREDIT SIGNagAS ABOVE SIGNagRUPEE SIGNagNUMBER SIGN@00C00a",
  "bELUGU SIGN COMBINING CANDRABINDU ABOVEanANDRABINDUamANUSVARAamVISARGAamCOMBINING ANUSVARA ABO",
  "VEahLETTER AapAaoIapIaoUapUaoVOCALIC RawL@00C0EaoEapEaoAI@00C12aoOapOaoAUaoKAapHAaoGAapHAaoNGA",
  "aoCAapHAaoJAapHAaoNYAaoTTAaqHAaoDDAaqHAaoNNAaoTAapHAaoDAapHAaoNA@00C2AaoPAapHAaoBAapHAaoMAaoYA",
  "aoRAapRAaoLAapLAaqLAaoVAaoSHAapSAapAaoHA@00C3CahSIGN NUKTAamAVAGRAHAahVOWEL SIGN AAasIatIasUat",
  "UasVOCALIC RbbR@00C46asEatEasAI@00C4AasOatOasAUahSIGN VIRAMA@00C55ahLENGTH MARKahAI LENGTH MAR",
  "K@00C58ahLETTER TSAaoDZAaoRRRA@00C5DaoNAKAARA POLLU@00C60aoVOCALIC RRawLLahVOWEL SIGN VOCALIC ",
  "LbbL@00C66ahDIGIT ZEROanONEanTWOaoHREEanFOURaoIVEanSIXaoEVENanEIGHTanNINE@00C77ahSIGN SIDDHAMa",
  "hFRACTION DIGIT ZERO FOR ODD POWERS OF FOURawONE FOR ODD POWERS OF FOURawTWO FOR ODD POWERS OF",
  " FOURaxHREE FOR ODD POWERS OF FOURawONE FOR EVEN POWERS OF FOURawTWO FOR EVEN POWERS OF FOURax",
  "HREE FOR EVEN POWERS OF FOURahSIGN TUUMUaaKANNADA SIGN SPACING CANDRABINDUanCANDRABINDUanANUSV",
  "ARAanVISARGAanSIDDHAMaiLETTER AaqAapIaqIapUaqUapVOCALIC RaxL@00C8EapEaqEapAI@00C92apOaqOapAUap",
  "KAaqHAapGAaqHAapNGAapCAaqHAapJAaqHAapNYAapTTAarHAapDDAarHAapNNAapTAaqHAapDAaqHAapNA@00CAAapPAa",
  "qHAapBAaqHAapMAapYAapRAaqRAapLAaqLA@00CB5apVAapSHAaqSAaqAapHA@00CBCaiSIGN NUKTAanAVAGRAHAaiVOW",
  "EL SIGN AAatIauIatUauUatVOCALIC RbcR@00CC6atEauEatAI@00CCAatOauOatAUaiSIGN VIRAMA@00CD5aiLENGT",
  "H MARKaiAI LENGTH MARK@00CDDaiLETTER NAKAARA POLLUapFA@00CE0apVOCALIC RRaxLLaiVOWEL SIGN VOCAL",
  "IC LbcL@00CE6aiDIGIT ZEROaoONEaoTWOapHREEaoFOURapIVEaoSIXapEVENaoEIGHTaoNINE@00CF1aiSIGN JIHVA",
  "MULIYAanUPADHMANIYA@00D00aaMALAYALAM SIGN COMBINING ANUSVARA ABOVEaqANDRABINDUapANUSVARAapVISA",
  "RGAakLETTER VEDIC ANUSVARAarAasAarIasIarUasUarVOCALIC RazL@00D0EarEasEarAI@00D12arOasOarAUarKA",
  "asHAarGAasHAarNGAarCAasHAarJAasHAarNYAarTTAatHAarDDAatHAarNNAarTAasHAarDAasHAarNAasNNAarPAasHA",
  "arBAasHAarMAarYAarRAasRAarLAasLAatLAarVAarSHAasSAasAarHAarTTTAakSIGN VERTICAL BAR VIRAMAapCIRC",
  "ULAR VIRAMAapAVAGRAHAakVOWEL SIGN AAavIawIavUawUavVOCALIC RbeR@00D46avEawEavAI@00D4AavOawOavAU",
  "akSIGN VIRAMAakLETTER DOT REPHakSIGN PARA@00D54akLETTER CHILLU MayYayLLLakAU LENGTH MARKakFRAC",
  "TION ONE ONE-HUNDRED-AND-SIXTIETHaxFORTIETHatTHREE EIGHTIETHSatONE TWENTIETHayENTHatTHREE TWEN",
  "TIETHSatONE FIFTHakLETTER ARCHAIC IIarVOCALIC RRazLLakVOWEL SIGN VOCALIC LbeL@00D66akDIGIT ZER",
  "OaqONEaqTWOarHREEaqFOURarIVEaqSIXarEVENaqEIGHTaqNINEakNUMBER TENarONE HUNDREDavTHOUSANDakFRACT",
  "ION ONE QUARTERaxHALFatTHREE QUARTERSatONE SIXTEENTHaxEIGHTHatTHREE SIXTEENTHSakDATE MARKakLET",
  "TER CHILLU NNazayRRayLazLayK@00D81aaSINHALA SIGN CANDRABINDUanANUSVARAYAanVISARGAYA@00D85aiLET",
  "TER AYANNAaqAYANNAaqEYANNAarEYANNAapIYANNAaqIYANNAapUYANNAaqUYANNAapIRUYANNAasUYANNAaqLUYANNAa",
  "sUYANNAapEYANNAaqEYANNAapAIYANNAapOYANNAaqOYANNAapAUYANNA@00D9AaqLPAPRAANA KAYANNAapMAHAAPRAAN",
  "A KAYANNAapALPAPRAANA GAYANNAapMAHAAPRAANA GAYANNAapKANTAJA NAASIKYAYAapSANYAKA GAYANNAapALPAP",
  "RAANA CAYANNAapMAHAAPRAANA CAYANNAapALPAPRAANA JAYANNAapMAHAAPRAANA JAYANNAapTAALUJA NAASIKYAY",
  "AaxSANYOOGA NAAKSIKYAYAapSANYAKA JAYANNAapALPAPRAANA TTAYANNAapMAHAAPRAANA TTAYANNAapALPAPRAAN",
  "A DDAYANNAapMAHAAPRAANA DDAYANNAaqUURDHAJA NAYANNAapSANYAKA DDAYANNAapALPAPRAANA TAYANNAapMAHA",
  "APRAANA TAYANNAapALPAPRAANA DAYANNAapMAHAAPRAANA DAYANNAapDANTAJA NAYANNA@00DB3apSANYAKA DAYAN",
  "NAapALPAPRAANA PAYANNAapMAHAAPRAANA PAYANNAapALPAPRAANA BAYANNAapMAHAAPRAANA BAYANNAarYANNAapA",
  "MBA BAYANNAapYAYANNAapRAYANNA@00DBDapDANTAJA LAYANNA@00DC0apVAYANNAapTAALUJA SAYANNAapMUURDHAJ",
  "A SAYANNAapDANTAJA SAYANNAapHAYANNAapMUURDHAJA LAYANNAapFAYANNA@00DCAaiSIGN AL-LAKUNA@00DCFaiV",
  "OWEL SIGN AELA-PILLAatKETTI AEDA-PILLAatDIGA AEDA-PILLAatKETTI IS-PILLAatDIGA IS-PILLAatKETTI ",
  "PAA-PILLA@00DD6atDIGA PAA-PILLA@00DD8atGAETTA-PILLAatKOMBUVAatDIGA KOMBUVAatKOMBU DEKAayVA HAA",
  " AELA-PILLAbfDIGA AELA-PILLAbfGAYANUKITTAatGAYANUKITTA@00DE6aiLITH DIGIT ZEROatONEatTWOauHREEa",
  "tFOURauIVEatSIXauEVENatEIGHTatNINE@00DF2aiVOWEL SIGN DIGA GAETTA-PILLAbaYANUKITTAaiPUNCTUATION",
  " KUNDDALIYA@00E01aaTHAI CHARACTER KO KAIaqHO KHAIavUATavWAIavONatRAKHANGapNGO NGUapCHO CHANavI",
  "NGavANGapSO SOapCHO CHOEapYO YINGapDO CHADAapTO PATAKaqHO THANatNANGMONTHOatPHUTHAOapNO NENapD",
  "O DEKapTO TAOaqHO THUNGavAHANavONGapNO NUapBO BAIMAIapPO PLAaqHO PHUNGapFO FAapPHO PHANapFO FA",
  "NapPHO SAMPHAOapMO MAapYO YAKapRO RUAaqUapLO LINGaqUapWO WAENapSO SALAasRUSIasSUAapHO HIPapLO ",
  "CHULAapO ANGapHO NOKHUKapPAIYANNOIapSARA AapMAI HAN-AKATapSARA AAavMauIavIauUEawEavavUapPHINTH",
  "U@00E3FagURRENCY SYMBOL BAHTagHARACTER SARA EauAEauOauAI MAIMUANbbALAIapLAKKHANGYAOapMAIYAMOKa",
  "sTAIKHUas EKatTHOauRIatCHATTAWAapTHANTHAKHATapNIKHAHITapYAMAKKANapFONGMANafDIGIT ZEROalONEalTW",
  "OamHREEalFOURamIVEalSIXamEVENalEIGHTalNINEafCHARACTER ANGKHANKHUapKHOMUT@00E81aaLAO LETTER KOa",
  "mHO SUNG@00E84apTAM@00E86alPALI GHAalNGOalCOalPALI CHAalSO TAM@00E8CalPALI JHAalNYOalPALI NYAa",
  "qTTAasHAaqDDAasHAaqNNAalDOalTOamHO SUNGapTAMalPALI DHAalNOalBOalPOamHO SUNGalFO TAMalPHO TAMal",
  "FO SUNGalPALI BHAalMOalYOalLO LING@00EA5apOOT@00EA7alWOalSANSKRIT SHAavSAamO SUNGalHO SUNGalPA",
  "LI LLAalOalHO TAMaeELLIPSISaeVOWEL SIGN AapMAI KANapAAaqMapIaqIapYaqYapUaqUaeSIGN PALI VIRAMAa",
  "eVOWEL SIGN MAI KONaeSEMIVOWEL SIGN LOatNYO@00EC0aeVOWEL SIGN EaqIapOapAYaqI@00EC6aeKO LA@00EC",
  "8aeTONE MAI EKanTHOaoIanCATAWAaeCANCELLATION MARKaeNIGGAHITA@00ED0aeDIGIT ZEROakONEakTWOalHREE",
  "akFOURalIVEakSIXalEVENakEIGHTakNINE@00EDCaeHO NOahMOaeLETTER KHMU GOaqNYO@00F00aaTIBETAN SYLLA",
  "BLE OMaiMARK GTER YIG MGO TRUNCATED Aba-UM RNAM BCAD MAbeGTER TSHEG MAanINITIAL YIG MGO MDUN M",
  "AanCLOSING YIG MGO SGAB MAaoARET YIG MGO PHUR SHAD MAanYIG MGO TSHEG SHAD MAanSBRUL SHADanBSKU",
  "R YIG MGOaoKA- SHOG YIG MGOanINTERSYLLABIC TSHEGanDELIMITER TSHEG BSTARanSHADanNYIS SHADanTSHE",
  "G SHADanNYIS TSHEG SHADanRIN CHEN SPUNGS SHADaoGYA GRAM SHADanCARET -DZUD RTAGS ME LONG CANanG",
  "TER TSHEGaiLOGOTYPE SIGN CHAD RTAGSawLHAG RTAGSaiASTROLOGICAL SIGN SGRA GCAN -CHAR RTAGSba-KHY",
  "UD PAbaSDONG TSHUGSaiSIGN RDEL DKAR GCIGayNYISaySUMasNAG GCIGaxNYISasDKAR RDEL NAGaiDIGIT ZERO",
  "aoONEaoTWOapHREEaoFOURapIVEaoSIXapEVENaoEIGHTaoNINEaoHALF ONEatTWOauHREEatFOURauIVEatSIXauEVEN",
  "atEIGHTatNINEatZEROaiMARK BSDUS RTAGSanNGAS BZUNG NYI ZLAanCARET -DZUD RTAGS BZHI MIG CANanNGA",
  "S BZUNG SGOR RTAGSanCHE MGOanTSA -PHRUanGUG RTAGS GYONazASanANG KHANG GYONazASaiSIGN YAR TSHES",
  "anMAR TSHESaiLETTER KAaqHAapGAaqHAapNGAapCAaqHAapJA@00F49apNYAapTTAarHAapDDAarHAapNNAapTAaqHAa",
  "pDAaqHAapNAapPAaqHAapBAaqHAapMAapTSAarHAapDZAarHAapWAapZHAaqAap-AapYAapRAapLAapSHAaqSAaqAapHAa",
  "pAapKSSAapFIXED-FORM RAapKKAapRRA@00F71aiVOWEL SIGN AAatIauIatUauUatVOCALIC RbcRbbLbcLatEauEat",
  "OauOaiSIGN RJES SU NGA ROaoNAM BCADaiVOWEL SIGN REVERSED IbdIaiSIGN NYI ZLA NAA DAanSNA LDANai",
  "MARK HALANTAanPALUTAaiSIGN LCI RTAGSanYANG RTAGSanLCE TSA CANanMCHU CANanGRU CAN RGYINGSarMED ",
  "RGYINGSanINVERTED MCHU CANajUBJOINED SIGN LCE TSA CANaxMCHU CANaxINVERTED MCHU CANasLETTER KAb",
  "aHAazGAbaHAazNGAazCAbaHAazJA@00F99azNYAazTTAbbHAazDDAbbHAazNNAazTAbaHAazDAbaHAazNAazPAbaHAazBA",
  "baHAazMAazTSAbbHAazDZAbbHAazWAazZHAbaAaz-AazYAazRAazLAazSHAbaSAbaAazHAazAazKSSAazFIXED-FORM WA",
  "bkYAbkRA@00FBEaiKU RU KHAar BZHI MIG CANaiCANTILLATION SIGN HEAVY BEATbaLIGHT BEATbaCANG TE-Ub",
  "aSBUB -CHALaiSYMBOL DRIL BUapRDO RJEapPADMA GDANapRDO RJE RGYA GRAMapPHUR PAapNOR BUav NYIS -K",
  "HYILawGSUM -KHYILawBZHI -KHYIL@00FCEajIGN RDEL NAG RDEL DKARawGSUMaiMARK BSKA- SHOG GI MGO RGY",
  "ANanMNYAM YIG GI MGO RGYANanNYIS TSHEGanINITIAL BRDA RNYING YIG MGO MDUN MAanCLOSING BRDA RNYI",
  "NG YIG MGO SGAB MAaaRIGHT-FACING SVASTI SIGNaaLEFT-FACING SVASTI SIGNaaRIGHT-FACING SVASTI SIG",
  "N WITH DOTSaaLEFT-FACING SVASTI SIGN WITH DOTSaaTIBETAN MARK LEADING MCHAN RTAGSanTRAILING MCH",
  "AN RTAGS@01000aaMYANMAR LETTER KAaqHAapGAaqHAapNGAapCAaqHAapJAaqHAapNYAaqNYAapTTAarHAapDDAarHA",
  "apNNAapTAaqHAapDAaqHAapNAapPAaqHAapBAaqHAapMAapYAapRAapLAapWAapSAapHAapLLAapAapSHAN AapIaqIapU",
  "aqUapEapMON EapOapAUaiVOWEL SIGN TALL AAatAAatIauIatUauUatEatAIatMON IIaxOatE ABOVEaiSIGN ANUS",
  "VARAanDOT BELOWanVISARGAapRAMAanASATaiCONSONANT SIGN MEDIAL YAbeRAbeWAbeHAaiLETTER GREAT SAaiD",
  "IGIT ZEROaoONEaoTWOapHREEaoFOURapIVEaoSIXapEVENaoEIGHTaoNINEaiSIGN LITTLE SECTIONanSECTIONajYM",
  "BOL LOCATIVEapCOMPLETEDapAFOREMENTIONEDapGENITIVEaiLETTER SHAaqSAapVOCALIC RayRaxLayLaiVOWEL S",
  "IGN VOCALIC RbcRbbLbcLaiLETTER MON NGAatJHAatBBAavEaiCONSONANT SIGN MON MEDIAL NAbiMAbiLAaiLET",
  "TER SGAW KAREN SHAaiVOWEL SIGN SGAW KAREN EUaiTONE MARK SGAW KAREN HATHIbdKE PHOaiLETTER WESTE",
  "RN PWO KAREN THAbhPWAaiVOWEL SIGN WESTERN PWO KAREN EUblUEaiSIGN WESTERN PWO KAREN TONE-1bk2bk",
  "3bk4bk5aiLETTER EASTERN PWO KAREN NNAbhYWAbhGHWAaiVOWEL SIGN GEBA KAREN IatKAYAH OEazUazEEaiLE",
  "TTER SHAN KAavHAauGAauCAauZAauNYAauDAauNAauPHAauFAauBAauTHAauHAaiCONSONANT SIGN SHAN MEDIAL WA",
  "aiVOWEL SIGN SHAN AAayEaz ABOVEayFINAL YaiSIGN SHAN TONE-2ax3ax5ax6asCOUNCIL TONE-2bf3baEMPHAT",
  "IC TONEaiLETTER RUMAI PALAUNG FAaiSIGN RUMAI PALAUNG TONE-5ajHAN DIGIT ZEROatONEatTWOauHREEatF",
  "OURauIVEatSIXauEVENatEIGHTatNINEajIGN KHAMTI TONE-1az3aiVOWEL SIGN AITON AbaIaiSYMBOL SHAN ONE",
  "auEXCLAMATIONaaGEORGIAN CAPITAL LETTER ANayBANayGANayDONayENayVINayZENayTANayINayKANayLASayMAN",
  "ayNARayONayPARayZHARayRAEaySANayTARayUNayPHARayKHARayGHANayQARaySHINayCHINazANayJILayCILazHARa",
  "yXANayJHANayHAEazEazIEayWEayHARazOE@010C7ayYN@010CDayAEN@010D0ajLETTER ANaqBANaqGANaqDONaqENaq",
  "VINaqZENaqTANaqINaqKANaqLASaqMANaqNARaqONaqPARaqZHARaqRAEaqSANaqTARaqUNaqPHARaqKHARaqGHANaqQAR",
  "aqSHINaqCHINarANaqJILaqCILarHARaqXANaqJHANaqHAEarEarIEaqWEaqHARarOEaqFIaqYNaqELIFIaqTURNED GAN",
  "aqAINajPARAGRAPH SEPARATORaaMODIFIER LETTER GEORGIAN NARaaGEORGIAN LETTER AENaqHARD SIGNaqLABI",
  "AL SIGNaaHANGUL CHOSEONG KIYEOKaqSSANGKIYEOKaqNIEUNaqTIKEUTaqSSANGTIKEUTaqRIEULaqMIEUMaqPIEUPa",
  "qSSANGPIEUParIOSarSANGSIOSaqIEUNGaqCIEUCaqSSANGCIEUCaqCHIEUCHaqKHIEUKHaqTHIEUTHaqPHIEUPHaqHIEU",
  "HaqNIEUN-KIYEOKaqSSANGNIEUNaqNIEUN-TIKEUTawPIEUPaqTIKEUT-KIYEOKaqRIEUL-NIEUNaqSSANGRIEULaqRIEU",
  "L-HIEUHaqKAPYEOUNRIEULaqMIEUM-PIEUPaqKAPYEOUNMIEUMaqPIEUP-KIYEOKawNIEUNawTIKEUTawSIOSba-KIYEOK",
  "bbTIKEUTbbPIEUPaxSANGSIOSaxIOS-CIEUCawCIEUCaxHIEUCHawTHIEUTHawPHIEUPHaqKAPYEOUNPIEUPaySSANGPIE",
  "UPaqSIOS-KIYEOKavNIEUNavTIKEUTavRIEULavMIEUMavPIEUPba-KIYEOKavSSANGSIOSavIEUNGavCIEUCawHIEUCHa",
  "vKHIEUKHavTHIEUTHavPHIEUPHavHIEUHaqCHITUEUMSIOSazSANGSIOSarEONGCHIEUMSIOSbcSANGSIOSaqPANSIOSaq",
  "IEUNG-KIYEOKawTIKEUTawMIEUMawPIEUPawSIOSawPANSIOSaqSSANGIEUNGaqIEUNG-CIEUCaxHIEUCHawTHIEUTHawP",
  "HIEUPHaqYESIEUNGaqCIEUC-IEUNGarHITUEUMCIEUCaySSANGCIEUCarEONGCHIEUMCIEUCbbSSANGCIEUCarHIEUCH-K",
  "HIEUKHayHIEUHatTUEUMCHIEUCHarEONGCHIEUMCHIEUCHaqPHIEUPH-PIEUPaqKAPYEOUNPHIEUPHaqSSANGHIEUHaqYE",
  "ORINHIEUHaqKIYEOK-TIKEUTaqNIEUN-SIOSawCIEUCawHIEUHaqTIKEUT-RIEULaqFILLERahJUNGSEONG FILLERarAa",
  "sEarYAatEarEOasarYEOatarOarWAatEarOEarYOarUarWEOatasIarYUarEUarYIarIarA-OatUarYA-OauYOarEO-Oau",
  "UauEUarYEO-OavUarO-EOauatYEatOatUarYO-YAawEavEOauOauIarU-AauEatEO-EUatYEatUarYU-AauEOavauYEOaw",
  "auUauIarEU-UauEUarYI-UarI-AatYAatOatUatEUatARAEAarARAEAaw-EOaxUaxIarSSANGARAEAarA-EUarYA-UasEO",
  "-YAarO-YAavEaiONGSEONG KIYEOKarSSANGKIYEOKarKIYEOK-SIOSarNIEUNaw-CIEUCaxHIEUHarTIKEUTarRIEULaw",
  "-KIYEOKaxMIEUMaxPIEUPaxSIOSaxTHIEUTHaxPHIEUPHaxHIEUHarMIEUMarPIEUPaw-SIOSarSIOSasSANGSIOSarIEU",
  "NGarCIEUCasHIEUCHarKHIEUKHarTHIEUTHarPHIEUPHarHIEUHarKIYEOK-RIEULaySIOS-KIYEOKarNIEUN-KIYEOKax",
  "TIKEUTaxSIOSaxPANSIOSaxTHIEUTHarTIKEUT-KIYEOKayRIEULarRIEUL-KIYEOK-SIOSaxNIEUNaxTIKEUTbd-HIEUH",
  "arSSANGRIEULarRIEUL-MIEUM-KIYEOKbdSIOSaxPIEUP-SIOSbdHIEUHaxKAPYEOUNPIEUPaxSSANGSIOSaxPANSIOSax",
  "KHIEUKHaxYEORINHIEUHarMIEUM-KIYEOKaxRIEULaxPIEUPaxSIOSaySANGSIOSaxPANSIOSaxCHIEUCHaxHIEUHarKAP",
  "YEOUNMIEUMarPIEUP-RIEULaxPHIEUPHaxHIEUHarKAPYEOUNPIEUParSIOS-KIYEOKawTIKEUTawRIEULawPIEUParPAN",
  "SIOSarIEUNG-KIYEOKaxSSANGKIYEOKarSSANGIEUNGarIEUNG-KHIEUKHarYESIEUNGaz-SIOSbaPANSIOSarPHIEUPH-",
  "PIEUParKAPYEOUNPHIEUPHarHIEUH-NIEUNaxRIEULaxMIEUMaxPIEUParYEORINHIEUHarKIYEOK-NIEUNayPIEUPayCH",
  "IEUCHayKHIEUKHayHIEUHarSSANGNIEUNaaETHIOPIC SYLLABLE HAatUatIatAAatEEauatOauAasLAatUatIatAAatE",
  "EauatOatWAasHHAauUauIauAAauEEavauOauWAasMAatUatIatAAatEEauatOatWAasSZAauUauIauAAauEEavauOauWAa",
  "sRAatUatIatAAatEEauatOatWAasSAatUatIatAAatEEauatOatWAatHAauUauIauAAauEEavauOauWAasQAatUatIatAA",
  "atEEauatOauAatWA@0124AauIauAAauEEav@01250atHAauUauIauAAauEEavauO@01258auWA@0125AavIavAAavEEaw@",
  "01260asBAatUatIatAAatEEauatOatWAasVAatUatIatAAatEEauatOatWAasTAatUatIatAAatEEauatOatWAasCAatUa",
  "tIatAAatEEauatOatWAasXAatUatIatAAatEEauatOauAatWA@0128AauIauAAauEEav@01290asNAatUatIatAAatEEau",
  "atOatWAatYAauUauIauAAauEEavauOauWAasGLOTTAL AbaUbaIbaAAbaEEbbbaObaWAasKAatUatIatAAatEEauatOauA",
  "atWA@012B2auIauAAauEEav@012B8atXAauUauIauAAauEEavauO@012C0auWA@012C2avIavAAavEEaw@012C8asWAatU",
  "atIatAAatEEauatOauAasPHARYNGEAL AbdUbdIbdAAbdEEbebdO@012D8asZAatUatIatAAatEEauatOatWAatHAauUau",
  "IauAAauEEavauOauWAasYAatUatIatAAatEEauatOauAasDAatUatIatAAatEEauatOatWAatDAauUauIauAAauEEavauO",
  "auWAasJAatUatIatAAatEEauatOatWAasGAatUatIatAAatEEauatOauAatWA@01312auIauAAauEEav@01318atGAauUa",
  "uIauAAauEEavauOauWAAasTHAauUauIauAAauEEavauOauWAasCHAauUauIauAAauEEavauOauWAasPHAauUauIauAAauE",
  "EavauOauWAasTSAauUauIauAAauEEavauOauWAatZAauUauIauAAauEEavauOavAasFAatUatIatAAatEEauatOatWAasP",
  "AatUatIatAAatEEauatOatWAasRYAasMYAasFYA@0135DajCOMBINING GEMINATION AND VOWEL LENGTH MARKatVOW",
  "EL LENGTH MARKatGEMINATION MARKajSECTION MARKajWORDSPACEajFULL STOPajCOMMAajSEMICOLONajCOLONaj",
  "PREFACE COLONajQUESTION MARKajPARAGRAPH SEPARATORajDIGIT ONEapTWOaqHREEapFOURaqIVEapSIXaqEVENa",
  "pEIGHTapNINEajNUMBER TENarWENTYarHIRTYaqFORTYarIFTYaqSIXTYarEVENTYaqEIGHTYaqNINETYaqHUNDREDaqT",
  "EN THOUSAND@01380ajSYLLABLE SEBATBEIT MWAasMWIauEEavasSEBATBEIT BWAasBWIauEEavasSEBATBEIT FWAa",
  "sFWIauEEavasSEBATBEIT PWAasPWIauEEavajTONAL MARK YIZETauDERETauRIKRIKauSHORT RIKRIKauDIFATauKE",
  "NATauCHIRETauHIDETauDERET-HIDETauKURT@013A0aaCHEROKEE LETTER AaqEaqIaqOaqUaqVaqGAaqKAaqGEarIar",
  "OarUarVaqHAarEarIarOarUarVaqLAarEarIarOarUarVaqMAarEarIarOarUaqNAaqHNAaqNAHarEarIarOarUarVaqQU",
  "AasEasIasOasUasVaqSAararEarIarOarUarVaqDAaqTAaqDEaqTEaqDIaqTIaqDOarUarVarLAaqTLAasEasIasOasUas",
  "VarSAasEasIasOasUasVaqWAarEarIarOarUarVaqYAarEarIarOarUarVaqMV@013F8ajSMALL LETTER YEaxIaxOaxU",
  "axVawMV@01400abANADIAN SYLLABICS HYPHENatEatAAIatIauIatOauOatY-CREE OOatCARRIER EEbbIatAauAatW",
  "EavST-CREE WEauIauEST-CREE WIauIIauEST-CREE WIIauOauEST-CREE WOauOOauEST-CREE WOOatNASKAPI WOO",
  "atWAauEST-CREE WAauAAauEST-CREE WAAatNASKAPI WAAatAIatY-CREE WatGLOTTAL STOPatFINAL ACUTEazGRA",
  "VEazBOTTOM HALF RINGazTOP HALF RINGazRIGHT HALF RINGbbNGazDOUBLE ACUTEbgSHORT VERTICAL STROKES",
  "azMIDDLE DOTazSHORT HORIZONTAL STROKEazPLUSazDOWN TACKatENatINatONatANatPEauAAIauIavIauOavOatY",
  "-CREE POOatCARRIER HEEbcIatPAavAauWEatWEST-CREE PWEatPWIatWEST-CREE PWIatPWIIatWEST-CREE PWIIa",
  "tPWOatWEST-CREE PWOatPWOOatWEST-CREE PWOOatPWAatWEST-CREE PWAatPWAAatWEST-CREE PWAAatY-CREE PW",
  "AAatPatWEST-CREE PatCARRIER HatTEauAAIauIavIauOavOatY-CREE TOOatCARRIER DEEbcIatTAavAauWEatWES",
  "T-CREE TWEatTWIatWEST-CREE TWIatTWIIatWEST-CREE TWIIatTWOatWEST-CREE TWOatTWOOatWEST-CREE TWOO",
  "atTWAatWEST-CREE TWAatTWAAatWEST-CREE TWAAatNASKAPI TWAAatTauTEavIavOavAatKEauAAIauIavIauOavOa",
  "tY-CREE KOOatKAavAauWEatWEST-CREE KWEatKWIatWEST-CREE KWIatKWIIatWEST-CREE KWIIatKWOatWEST-CRE",
  "E KWOatKWOOatWEST-CREE KWOOatKWAatWEST-CREE KWAatKWAAatWEST-CREE KWAAatNASKAPI KWAAatKauWatSOU",
  "TH-SLAVEY KEHbhIHbhOHbhAHatCEauAAIauIavIauOavOatY-CREE COOatCAavAauWEatWEST-CREE CWEatCWIatWES",
  "T-CREE CWIatCWIIatWEST-CREE CWIIatCWOatWEST-CREE CWOatCWOOatWEST-CREE CWOOatCWAatWEST-CREE CWA",
  "atCWAAatWEST-CREE CWAAatNASKAPI CWAAatCatSAYISI THatMEauAAIauIavIauOavOatY-CREE MOOatMAavAauWE",
  "atWEST-CREE MWEatMWIatWEST-CREE MWIatMWIIatWEST-CREE MWIIatMWOatWEST-CREE MWOatMWOOatWEST-CREE",
  " MWOOatMWAatWEST-CREE MWAatMWAAatWEST-CREE MWAAatNASKAPI MWAAatMatWEST-CREE MatMHatATHAPASCAN ",
  "MatSAYISI MatNEauAAIauIavIauOavOatY-CREE NOOatNAavAauWEatWEST-CREE NWEatNWAatWEST-CREE NWAatNW",
  "AAatWEST-CREE NWAAatNASKAPI NWAAauatCARRIER NGatNHatLEauAAIauIavIauOavOatY-CREE LOOatLAavAauWE",
  "atWEST-CREE LWEatLWIatWEST-CREE LWIatLWIIatWEST-CREE LWIIatLWOatWEST-CREE LWOatLWOOatWEST-CREE",
  " LWOOatLWAatWEST-CREE LWAatLWAAatWEST-CREE LWAAatLatWEST-CREE LatMEDIAL LatSEauAAIauIavIauOavO",
  "atY-CREE SOOatSAavAauWEatWEST-CREE SWEatSWIatWEST-CREE SWIatSWIIatWEST-CREE SWIIatSWOatWEST-CR",
  "EE SWOatSWOOatWEST-CREE SWOOatSWAatWEST-CREE SWAatSWAAatWEST-CREE SWAAatNASKAPI SWAAatSatATHAP",
  "ASCAN SatSWatBLACKFOOT SatMOOSE-CREE SKatNASKAPI SKWbc-WbcPWAbcTWAbcKWAbcCWAatSHEavIawIavOawOa",
  "vAawAavWEatWEST-CREE SHWEatSHWIatWEST-CREE SHWIatSHWIIatWEST-CREE SHWIIatSHWOatWEST-CREE SHWOa",
  "tSHWOOatWEST-CREE SHWOOatSHWAatWEST-CREE SHWAatSHWAAatWEST-CREE SHWAAatSHatYEauAAIauIavIauOavO",
  "au-CREE YOOauAavAauWEatWEST-CREE YWEatYWIatWEST-CREE YWIatYWIIatWEST-CREE YWIIatYWOatWEST-CREE",
  " YWOatYWOOatWEST-CREE YWOOatYWAatWEST-CREE YWAatYWAAatWEST-CREE YWAAatNASKAPI YWAAatYatBIBLE-C",
  "REE YatWEST-CREE YatSAYISI YIatREau-CREE REatWEST-CREE LEatRAAIauIavIauOavOatWEST-CREE LOatRAa",
  "vAatWEST-CREE LAatRWAAatWEST-CREE RWAAatRatWEST-CREE RatMEDIAL RatFEauAAIauIavIauOavOauAavAauW",
  "AAatWEST-CREE FWAAatFatTHEatN-CREE THEatTHIatN-CREE THIatTHIIatN-CREE THIIatTHOawOavAawAavWAAa",
  "tWEST-CREE THWAAatTHauTHEawIawOawAawauYEavIavOavAatNUNAVIK HEbcIbdIbcObdObcAbdAbcayUT HatHKatQ",
  "AAIauIavIauOavOauAavAauatTLHEawIawOawAatWEST-CREE REbeIbeObeAatNGAAIavIawIavOawOavAawAavauNGat",
  "SAYISI SHEbcIbcObcAatWOODS-CREE THEbgIbgObgAbgatLHIawIavOawOavAawAavatTH-CREE THEbdIbeIbdObeOb",
  "dAbeAbdatAIVILIK BatBLACKFOOT EbdIbdObdAbdWEbeIbeObeAbdNEbeIbeObeAbdKEbeIbeObeAatSAYISI HEbbIb",
  "bObbAatCARRIER GHUbdObdEbeEbdIbdAbbRUbcObcEbdEbcIbcAbbWUbcObcEbdEbcIbcAbbHWUbdObdEbeEbdIbdAbbT",
  "HUbdObdEbeEbdIbdAbcTUbdObdEbeEbdIbdAbbPUbcObcEbdEbcIbcAbcbbGUbcObcEbdEbcIbcAbbKHUbdObdEbeEbdIb",
  "dAbcKUbdObdEbeEbdIbdAbdbbNUbcObcEbdEbcIbcAbbMUbcObcEbdEbcIbcAbbYUbcObcEbdEbcIbcAbbJUatSAYISI J",
  "UatCARRIER JObcEbdEbcIatSAYISI JIatCARRIER JAbcJUbdObdEbeEbdIbdAbbLUbcObcEbdEbcIbcAbbDLUbdObdE",
  "beEbdIbdAbbLHUbdObdEbeEbdIbdAbbTLHUbeObeEbfEbeIbeAbdUbdObdEbeEbdIbdAbbZUbcObcEbdEbcIbcAbcbbINI",
  "TIAL ZbbDZUbdObdEbeEbdIbdAbbSUbcObcEbdEbcIbcAbcHUbdObdEbeEbdIbdAbdbbTSUbdObdEbeEbdIbdAbbCHUbdO",
  "bdEbeEbdIbdAbbTTSUbeObeEbfEbeIbeAauHI SIGNatFULL STOPatQAIatNGAIauNGIaxIawOaxOawAaxAatWOODS-CR",
  "EE THWEEbhIbiIbhObiObhAbiAbeFINAL THatBLACKFOOT WaaOGHAM SPACE MARKagLETTER BEITHanLUISanFEARN",
  "anSAILanNIONanUATHanDAIRanTINNEanCOLLaoEIRTanMUINanGORTanNGEADALanSTRAIFanRUISanAILManONNanURa",
  "nEADHADHanIODHADHanEABHADHanORanUILLEANNanIFINanEAMHANCHOLLanPEITHagFEATHER MARKagREVERSED FEA",
  "THER MARK@016A0aaRUNIC LETTER FEHU FEOH FE FanVanURUZ UR UanYRaoanWanTHURISAZ THURS THORNanETH",
  "anANSUZ AanOS OanAC AaoESCanLONG-BRANCH-OSS OanSHORT-TWIG-OSS OanOaoEaoNanRAIDO RAD REID RanKA",
  "UNAanCENanKAUN KanGanENGanGEBO GYFU GaoARanWUNJO WYNN WanHAGLAZ HapEGL HanLONG-BRANCH-HAGALL H",
  "anSHORT-TWIG-HAGALL HanNAUDIZ NYD NAUD NanSHORT-TWIG-NAUD NanDOTTED-NanISAZ IS ISS IanEanJERAN",
  " JanGERanLONG-BRANCH-AR AEanSHORT-TWIG-AR AanIWAZ EOHanPERTHO PEORTH PanALGIZ EOLHXanSOWILO Sa",
  "oIGEL LONG-BRANCH-SOL SaoHORT-TWIG-SOL SanCanZanTIWAZ TIR TYR TanSHORT-TWIG-TYR TanDanBERKANAN",
  " BEORC BJARKAN BanSHORT-TWIG-BJARKAN BanDOTTED-PanOPEN-PanEHWAZ EH EanMANNAZ MAN ManLONG-BRANC",
  "H-MADR ManSHORT-TWIG-MADR ManLAUKAZ LAGU LOGR LanDOTTED-LanINGWAZaqanDAGAZ DAEG DanOTHALAN ETH",
  "EL OanEARanIORanCWEORTHaoALCaoEALCanSTANanLONG-BRANCH-YRanSHORT-TWIG-YRanICELANDIC-YRanQanXagS",
  "INGLE PUNCTUATIONagMULTIPLE PUNCTUATIONagCROSS PUNCTUATIONagARLAUG SYMBOLagTVIMADUR SYMBOLagBE",
  "LGTHOR SYMBOLagLETTER KanSHanOOanFRANKS CASKET OSbbISbbEHbbACbcESC@01700aaTAGALOG LETTER AapIa",
  "pUapKAapGAapNGAapTAapDAapNAapPAapBAapMAapYAapRAapLAapWAapSAapHAaiVOWEL SIGN IatUaiSIGN VIRAMAa",
  "nPAMUDPOD@0171FaiLETTER ARCHAIC RAaaHANUNOO LETTER AapIapUapKAapGAapNGAapTAapDAapNAapPAapBAapM",
  "AapYAapRAapLAapWAapSAapHAaiVOWEL SIGN IatUaiSIGN PAMUDPODaaPHILIPPINE SINGLE PUNCTUATIONalDOUB",
  "LE PUNCTUATION@01740aaBUHID LETTER AanIanUanKAanGAanNGAanTAanDAanNAanPAanBAanMAanYAanRAanLAanW",
  "AanSAanHAagVOWEL SIGN IarU@01760aaTAGBANWA LETTER AaqIaqUaqKAaqGAaqNGAaqTAaqDAaqNAaqPAaqBAaqMA",
  "aqYA@0176EaqLAaqWAaqSA@01772ajVOWEL SIGN IauU@01780aaKHMER LETTER KAaoHAaoOaoHOanNGOanCAaoHAao",
  "OaoHOanNYOanDAanTTHAanDOanTTHOanNNOanTAaoHAaoOaoHOanNOanBAanPHAaoOaoHOanMOanYOanROanLOanVOanSH",
  "AaoSOaoAanHAanLAanQAagINDEPENDENT VOWEL QAQbaAazIbaIazUbaKbaUbbVayRYbaYayLYbaYayQEazAIazOO TYP",
  "E ONEbhTWOazAUagVOWEL INHERENT AQawAamSIGN AAarIasIarYasYarUasUasAarOEarYAarIEarEarAEasIarOOar",
  "AUagSIGN NIKAHITalREAHMUKalYUUKALEAPINTUalMUUSIKATOANalTRIISAPalBANTOCalROBATalTOANDAKHIATalKA",
  "KABATalAHSDAalSAMYOK SANNYAalVIRIAMalCOENGalBATHAMASATalKHANalBARIYOOSANalCAMNUC PII KUUHalLEK",
  " TOOalBEYYALalPHNAEK MUANalKOOMUUTagCURRENCY SYMBOL RIELagSIGN AVAKRAHASANYAamTTHACAN@017E0agD",
  "IGIT ZEROamONEamTWOanHREEamFOURanIVEamSIXanEVENamEIGHTamNINE@017F0agSYMBOL LEK ATTAK SONaxMUOY",
  "axPIIaxBEIayUONaxPRAMbb-MUOYbcPIIbcBEIbdUON@01800aaMONGOLIAN BIRGAakELLIPSISakCOMMAakFULL STOP",
  "akCOLONakFOUR DOTSakTODO SOFT HYPHENakSIBE SYLLABLE BOUNDARY MARKERakMANCHU COMMAarFULL STOPak",
  "NIRUGUakFREE VARIATION SELECTOR ONEbiTWObjHREEakVOWEL SEPARATORakFREE VARIATION SELECTOR FOURa",
  "kDIGIT ZEROaqONEaqTWOarHREEaqFOURarIVEaqSIXarEVENaqEIGHTaqNINE@01820akLETTER AarEarIarOarUarOE",
  "arUEarEEarNAarANGarBAarPAarQAarGAarMAarLAarSAasHAarTAarDAarCHAarJAarYAarRAarWAarFAarKAasHAarTS",
  "AarZAarHAAarZRAarLHAarZHIarCHIarTODO LONG VOWEL SIGNawEawIawOawUawOEawUEawANGawBAawPAawQAawGAa",
  "wMAawTAawDAawCHAawJAawTSAawYAawWAawKAawGAAawHAAawJIAawNIAawDZAarSIBE EawIaxYawUEaxawANGawKAawG",
  "AawHAawPAawSHAawTAawDAawJAawFAawGAAawHAAawTSAawZAawRAAawCHAawZHAarMANCHU IayKAayRAayFAayZHAarC",
  "HA WITH TWO DOTS@01880arALI GALI ANUSVARA ONEbaVISARGA ONEbaDAMARUbaUBADAMAbaINVERTED UBADAMAb",
  "aBALUDAbaTHREE BALUDAbaAbaIbaKAbaNGAbaCAbaTTAbcHAbaDDAbaNNAbaTAbaDAbaPAbbHAbaSSAbaZHAbbAbaAHar",
  "TODO ALI GALI TAbfZHAarMANCHU ALI GALI GHAbhNGAbhCAbhJHAbhTTAbhDDHAbhTAbhDHAbhSSAbhCYAbhZHAbiA",
  "arALI GALI HALF UbfYAarMANCHU ALI GALI BHAarALI GALI DAGALGAarMANCHU ALI GALI LHA@018B0aaCANAD",
  "IAN SYLLABICS OYatAYauAYatWAYatPOYauAYauWOYatTAYatKAYauWAYatMAYatNOYauAYatLAYatSOYauAYauHOYavA",
  "YavWOYatYOYauAYatRAYatNWIatOJIBWAY NWIatNWIIatOJIBWAY NWIIatNWOatOJIBWAY NWOatNWOOatOJIBWAY NW",
  "OOatRWEEavIawIavOawOavAatOJIBWAY PbbTbbKbbCbbMbbNbbSbcHatEASTERN WatWESTERN WatFINAL SMALL RIN",
  "GazRAISED DOTatR-CREE RWEatWEST-CREE LOObeAAatTHWEawAauTHWEawOOawAAauLHWEawOOatSAYISI SHWEbcOO",
  "baHOOatCARRIER GWUbbDENE GEEbbGAAbcWAatSAYISI JUUatCARRIER JWAatBEAVER DENE LbfRatCARRIER DENT",
  "AL S@01900aaLIMBU VOWEL-CARRIER LETTERagLETTER KAaoHAanGAaoHAanNGAanCAaoHAanJAaoHAanYANanTAaoH",
  "AanDAaoHAanNAanPAaoHAanBAaoHAanMAanYAanRAanLAanWAanSHAaoSAaoAanHAanGYANanTRA@01920agVOWEL SIGN",
  " AarIarUarEEarAIarOOarAUarEarOagSUBJOINED LETTER YAaxRAaxWA@01930ahMALL LETTER KAatNGAatANUSVA",
  "RAatTAatNAatPAatMAatRAatLAahIGN MUKPHRENGalKEMPHRENGalSA-I@01940alLOO@01944agEXCLAMATION MARKa",
  "gQUESTION MARKagDIGIT ZEROamONEamTWOanHREEamFOURanIVEamSIXanEVENamEIGHTamNINEaaTAI LE LETTER K",
  "AaoXAaoNGAaoTSAaoSAaoYAaoTAapHAaoLAaoPAapHAaoMAaoFAaoVAaoHAaoQAaoKHAaoTSHAaoNAaoAaoIaoEEapHaoU",
  "aoOOapaoUEaoEaoAUEapI@01970aoTONE-2at3at4at5at6@01980aaNEW TAI LUE LETTER HIGH QAatLOW QAatHIG",
  "H KAayXAayNGAatLOW KAaxXAaxNGAatHIGH TSAaySAayYAatLOW TSAaxSAaxYAatHIGH TAazHAayNAatLOW TAayHA",
  "axNAatHIGH PAazHAayMAatLOW PAayHAaxMAatHIGH FAayVAayLAatLOW FAaxVAaxLAatHIGH HAayDAayBAatLOW H",
  "AaxDAaxBAatHIGH KVAayXVAatLOW KVAaxXVAatHIGH SUAatLOW SUA@019B0amVOWEL SIGN VOWEL SHORTENERaxA",
  "AaxIIaxUayUaxEaxAEaxOayAaxUEaxAYayAYaxUYaxOYayAYaxUEYaxIYamLETTER FINAL VazNGbaazMazKazDazBamT",
  "ONE MARK-1aw2@019D0amDIGIT ZEROasONEasTWOatHREEasFOURatIVEasSIXatEVENasEIGHTasNINEamTHAM DIGIT",
  " ONE@019DEamSIGN LAEauVaaKHMER SYMBOL PATHAMASATanMUOY KOETanPII KOETanBEI KOETaoUON KOETanPRA",
  "M KOETar-MUOY KOETasPII KOETasBEI KOETatUON KOETanDAP KOETaq-MUOY KOETarPII KOETarBEI KOETasUO",
  "N KOETarPRAM KOETanTUTEYASATanMUOY ROCanPII ROCanBEI ROCaoUON ROCanPRAM ROCar-MUOY ROCasPII RO",
  "CasBEI ROCatUON ROCanDAP ROCaq-MUOY ROCarPII ROCarBEI ROCasUON ROCarPRAM ROCaaBUGINESE LETTER ",
  "KAaqGAaqNGAasKAaqPAaqBAaqMAarPAaqTAaqDAaqNAarRAaqCAaqJAaqNYAasCAaqYAaqRAaqLAaqVAaqSAaqAaqHAajV",
  "OWEL SIGN IauUauEauOauAE@01A1EajPALLAWAajEND OF SECTIONaaTAI THAM LETTER HIGH KAawHAawXAaqLOW ",
  "KAavXAavHAaqNGAaqHIGH CAawHAaqLOW CAauSAauCHAaqNYAaqRATAaqHIGH RATHAaqDAaqLOW RATHAaqRANAaqHIG",
  "H TAawHAaqLOW TAavHAaqNAaqBAaqHIGH PAawHAavFAaqLOW PAauFAauPHAaqMAaqLOW YAaqHIGH YAaqRAarUEaqL",
  "AarUEaqWAaqHIGH SHAawSAawAavHAaqLLAaqAaqLOW HAaqIarIaqUarUaqEEaqOOaqLAEaqGREAT SAajCONSONANT S",
  "IGN MEDIAL RAbfLAayLA TANG LAIajSIGN MAI KANG LAIajCONSONANT SIGN FINAL NGAayLOW PAayHIGH RATH",
  "A OR LOW PAayMAayBAaySA@01A60ajSIGN SAKOTajVOWEL SIGN AauMAI SATauAAauTALL AAauIavIauUEavUEava",
  "vUauOavA BELOWavYauEauAEauOOauAIauTHAM AIauOA ABOVEajSIGN MAI KANGaoTONE-1at2aoKHUEN TONE-3az4",
  "az5aoRA HAAMaoMAI SAMaoKHUEN-LUE KARAN@01A7FajCOMBINING CRYPTOGRAMMIC DOTajHORA DIGIT ZEROauON",
  "EauTWOavHREEauFOURavIVEauSIXavEVENauEIGHTauNINE@01A90ajTHAM DIGIT ZEROauONEauTWOavHREEauFOURav",
  "IVEauSIXavEVENauEIGHTauNINE@01AA0ajSIGN WIANGatWAAKaoSAWANaoKEOWaoHOYaoDOKMAIaoREVERSED ROTATE",
  "D RANAaoMAI YAMOKaoKAANasKUUaoSATKAANavKUUaoHANGaoCAANG@01AB0aaCOMBINING DOUBLED CIRCUMFLEX AC",
  "CENTalIAERESIS-RINGakINFINITYakDOWNWARDS ARROWakTRIPLE DOTakX-X BELOWakWIGGLY LINE BELOWakOPEN",
  " MARK BELOWakDOUBLE OPEN MARK BELOWakLIGHT CENTRALIZATION STROKE BELOWakSTRONG CENTRALIZATION ",
  "STROKE BELOWakPARENTHESES ABOVEakDOUBLE PARENTHESES ABOVEakPARENTHESES BELOWawOVERLAYakLATIN S",
  "MALL LETTER W BELOWbdTURNED W BELOWalEFT PARENTHESIS ABOVE LEFTakRIGHT PARENTHESIS ABOVE RIGHT",
  "akLEFT PARENTHESIS BELOW LEFTakRIGHT PARENTHESIS BELOW RIGHTakSQUARE BRACKETS ABOVEakNUMBER SI",
  "GN ABOVEakINVERTED DOUBLE ARCH ABOVEakPLUS SIGN ABOVEakDOUBLE PLUS SIGN ABOVEbbBELOWakTRIPLE A",
  "CUTE ACCENTakLATIN SMALL LETTER INSULAR GblRblT@01B00aaBALINESE SIGN ULU RICEMasCANDRAaoCECEKa",
  "oSURANGaoBISAHajLETTER AKARAav TEDUNGaqIKARAav TEDUNGaqUKARAav TEDUNGaqRA REPAax TEDUNGaqLA LE",
  "NGAay TEDUNGaqEKARAaqAIKARAaqOKARAav TEDUNGaqKAas MAHAPRANAaqGAas GORAaqNGAaqCAas LACAaqJAas J",
  "ERAaqNYAaqTA LATIKatMURDA MAHAPRANAaqDA MURDA ALPAPRANAazMAHAPRANAaqNA RAMBATaqTAas TAWAaqDAas",
  " MADUaqNAaqPAas KAPALaqBAas KEMBANGaqMAaqYAaqRAaqLAaqWAaqSA SAGAavPAasaqHAajSIGN REREKANajVOWE",
  "L SIGN TEDUNGauULUax SARIauSUKUay ILUTauRA REPAbb TEDUNGauLA LENGAbc TEDUNGauTALINGba REPAbbTE",
  "DUNGbbREPA TEDUNGauPEPETaz TEDUNGajADEG ADEGajLETTER KAF SASAKarHOT SASAKaqTZIR SASAKaqEF SASA",
  "KaqVE SASAKaqZAL SASAKaqASYURA SASAKarRCHAIC JNYA@01B50ajDIGIT ZEROapONEapTWOaqHREEapFOURaqIVE",
  "apSIXaqEVENapEIGHTapNINEajPANTIalMADAajWINDUajCARIK PAMUNGKAHapSIKIapPARERENajPAMENENGajMUSICA",
  "L SYMBOL DONGazENGazUNGazANGbc SURANGazINGazAENGazEUNGazAINGbaNG GEDEayCOMBINING TEGEHbiENDEPb",
  "iKEMPULbmLIbiJEGOGANbiKEMPUL WITH JEGOGANbmLI WITH JEGOGANbiBENDEbiGONGayRIGHT-HAND OPEN DUGbp",
  "AGbjCLOSED TUKbrAKayLEFT-HAND OPEN PANGboUNGbiCLOSED PLAKbrUKbiOPEN PINGajPANTI LANTANGalMADA ",
  "LANTANG@01B80aaSUNDANESE SIGN PANYECEKasGLAYARatWISADakLETTER AarIarUarAEarOarEasUarKAarQAarGA",
  "arNGAarCAarJAarZAarNYAarTAarDAarNAarPAarFAarVAarBAarMAarYAarRAarLAarWAarSAarXAarHAakCONSONANT ",
  "SIGN PAMINGKALbbNYAKRAbdIKUakVOWEL SIGN PANGHULUayYUKUayAELAENGayOLONGaxMEPETaxNEULEUNGakSIGN ",
  "PAMAAEHapVIRAMAakCONSONANT SIGN PASANGAN MAbiWAakLETTER KHAarSYAakDIGIT ZEROaqONEaqTWOarHREEaq",
  "FOURarIVEaqSIXarEVENaqEIGHTaqNINEakAVAGRAHAakLETTER REUarLEUarBHAarFINAL KaxMaaBATAK LETTER Aa",
  "nSIMALUNGUN AanHAanSIMALUNGUN HAanMANDAILING HAanBAanKARO BAanPAanSIMALUNGUN PAanNAanMANDAILIN",
  "G NAanWAanSIMALUNGUN WAanPAKPAK WAanGAanSIMALUNGUN GAanJAanDAanRAanSIMALUNGUN RAanMAanSIMALUNG",
  "UN MAaoOUTHERN TAanNORTHERN TAanSAaoIMALUNGUN SAanMANDAILING SAanYAanSIMALUNGUN YAanNGAanLAanS",
  "IMALUNGUN LAanNYAanCAanNDAanMBAanIanUagSIGN TOMPIagVOWEL SIGN EarPAKPAK EarEEarIarKARO IarOarK",
  "ARO OarUas FOR SIMALUNGUN SAagCONSONANT SIGN NGavHagPANGOLATajONGONAN@01BFCagSYMBOL BINDU NA M",
  "ETEKatPINARBORASatJUDULatPANGOLATaaLEPCHA LETTER KAapLAapHAaoGAapLAaoNGAaoCAapHAaoJAaoNYAaoTAa",
  "pHAaoDAaoNAaoPAapLAapHAaoFAapLAaoBAapLAaoMAapLAaoTSAaqHAaoDZAaoYAaoRAaoLAaoHAapLAaoVAaoSAapHAa",
  "oWAaoAahSUBJOINED LETTER YAayRAahVOWEL SIGN AAasIasOatOasUatUasEahCONSONANT SIGN KawMawLawNawP",
  "awRawTawNYIN-DOawKANGahSIGN RANamNUKTA@01C3BahPUNCTUATION TA-ROLatNYET THYOOM TA-ROLatCER-WAat",
  "TSHOOK CER-WAazahDIGIT ZEROanONEanTWOaoHREEanFOURaoIVEanSIXaoEVENanEIGHTanNINE@01C4DahLETTER T",
  "TAaqHAaoDDAaaOL CHIKI DIGIT ZEROapONEapTWOaqHREEapFOURaqIVEapSIXaqEVENapEIGHTapNINEajLETTER LA",
  "aqATarGarNGarLaqLAAaqAAKasJasMasWaqLIaqISarHarNYarRaqLUaqUCarDarNNarYaqLEaqEParDDarNarRRaqLOaq",
  "OTTarBarVarHajMU TTUDDAGajGAAHLAA TTUDDAAGajMU-GAAHLAA TTUDDAAGajRELAAajPHAARKAAajAHADajPUNCTU",
  "ATION MUCAADavDOUBLE MUCAADaaCYRILLIC SMALL LETTER ROUNDED VEawLONG-LEGGED DEawNARROW OawWIDE ",
  "ESawTALL TEaxHREE-LEGGED TEaxALL HARD SIGNbbYATawUNBLENDED UK@01C90aaGEORGIAN MTAVRULI CAPITAL",
  " LETTER ANbhBANbhGANbhDONbhENbhVINbhZENbhTANbhINbhKANbhLASbhMANbhNARbhONbhPARbhZHARbhRAEbhSANb",
  "hTARbhUNbhPHARbhKHARbhGHANbhQARbhSHINbhCHINbiANbhJILbhCILbiHARbhXANbhJHANbhHAEbiEbiIEbhWEbhHAR",
  "biOEbhFIbhYNbhELIFIbhTURNED GANbhAIN@01CBDbiENbhHARD SIGNbhLABIAL SIGNaaSUNDANESE PUNCTUATION ",
  "BINDU SURYAbcPANGLONGbdURNAMAbcCAKRAbcLEU SATANGAbcKA SATANGAbcDA SATANGAbcBA SATANGA@01CD0aaV",
  "EDIC TONE KARSHANAalSHARAalPRENKHAagSIGN NIHSHVASAalYAJURVEDIC MIDLINE SVARITAagTONE YAJURVEDI",
  "C AGGRAVATED INDEPENDENT SVARITAawINDEPENDENT SVARITAawKATHAKA INDEPENDENT SVARITAalCANDRA BEL",
  "OWalYAJURVEDIC KATHAKA INDEPENDENT SVARITA SCHROEDERalDOUBLE SVARITAalTRIPLE SVARITAalKATHAKA ",
  "ANUDATTAalDOT BELOWalTWO DOTS BELOWamHREE DOTS BELOWalRIGVEDIC KASHMIRI INDEPENDENT SVARITAalA",
  "THARVAVEDIC INDEPENDENT SVARITAagSIGN VISARGA SVARITAatUDATTAalREVERSED VISARGA UDATTAalVISARG",
  "A ANUDATTAalREVERSED VISARGA ANUDATTAalVISARGA UDATTA WITH TAILatANUDATTA WITH TAILalANUSVARA ",
  "ANTARGOMUKHAauBAHIRGOMUKHAauVAMAGOMUKHAbf WITH TAILalTIRYAKalHEXIFORM LONG ANUSVARAalLONG ANUS",
  "VARAalRTHANG LONG ANUSVARAalANUSVARA UBHAYATO MUKHAamRDHAVISARGAalROTATED ARDHAVISARGAagTONE C",
  "ANDRA ABOVEagSIGN JIHVAMULIYAalUPADHMANIYAalATIKRAMAagTONE RING ABOVEalDOUBLE RING ABOVEagSIGN",
  " DOUBLE ANUSVARA ANTARGOMUKHA@01D00aaLATIN LETTER SMALL CAPITAL AbcEagSMALL LETTER TURNED AEag",
  "LETTER SMALL CAPITAL BARRED BbbCbbDbbETHbcagSMALL LETTER TURNED OPEN EbaIagLETTER SMALL CAPITA",
  "L JbbKbbL WITH STROKEbbMbbREVERSED NbbObcPEN OagSMALL LETTER SIDEWAYS ObdPEN Obd WITH STROKEat",
  "TURNED OEagLETTER SMALL CAPITAL OUagSMALL LETTER TOP HALF OatBOTTOM HALF OagLETTER SMALL CAPIT",
  "AL PbbREVERSED RbbTURNED RbcbbUagSMALL LETTER SIDEWAYS UbcDIAERESIZED UbcTURNED MagLETTER SMAL",
  "L CAPITAL VbbWbbZbbEZHanVOICED LARYNGEAL SPIRANTanAINaaGREEK LETTER SMALL CAPITAL GAMMAbbLAMDA",
  "bbPIbbRHObbPSIaaCYRILLIC LETTER SMALL CAPITAL ELaaMODIFIER LETTER CAPITAL AazEayBazARRED BayDa",
  "yEayREVERSED EayGayHayIayJayKayLayMayNayREVERSED NayOazUayPayRayTayUayWaqSMALL AawTURNED AawAL",
  "PHAawTURNED AEawBawDawEawSCHWAawOPEN EawTURNED OPEN EawGawTURNED IawKawMawENGawOaxPEN OawTOP H",
  "ALF OawBOTTOM HALF OawPawTawUawSIDEWAYS UawTURNED MawVawAINawBETAawGREEK GAMMAawDELTAawGREEK P",
  "HIawCHIaaLATIN SUBSCRIPT SMALL LETTER IbdRbdUbdVaaGREEK SUBSCRIPT SMALL LETTER BETAbdGAMMAbdRH",
  "ObdPHIbdCHIaaLATIN SMALL LETTER UEatB WITH MIDDLE TILDEatD WITH MIDDLE TILDEatF WITH MIDDLE TI",
  "LDEatM WITH MIDDLE TILDEatN WITH MIDDLE TILDEatP WITH MIDDLE TILDEatR WITH MIDDLE TILDEbaFISHH",
  "OOK AND MIDDLE TILDEatS WITH MIDDLE TILDEatT WITH MIDDLE TILDEatZ WITH MIDDLE TILDEatTURNED Ga",
  "aMODIFIER LETTER CYRILLIC ENaaLATIN SMALL LETTER INSULAR GatTH WITH STRIKETHROUGHamCAPITAL LET",
  "TER I WITH STROKEamLETTER IOTA WITH STROKEatP WITH STROKEamCAPITAL LETTER U WITH STROKEamLETTE",
  "R UPSILON WITH STROKEatB WITH PALATAL HOOKatD WITH PALATAL HOOKatF WITH PALATAL HOOKatG WITH P",
  "ALATAL HOOKatK WITH PALATAL HOOKatL WITH PALATAL HOOKatM WITH PALATAL HOOKatN WITH PALATAL HOO",
  "KatP WITH PALATAL HOOKatR WITH PALATAL HOOKatS WITH PALATAL HOOKatESH WITH PALATAL HOOKatV WIT",
  "H PALATAL HOOKatX WITH PALATAL HOOKatZ WITH PALATAL HOOKatA WITH RETROFLEX HOOKauLPHA WITH RET",
  "ROFLEX HOOKatD WITH HOOK AND TAILatE WITH RETROFLEX HOOKatOPEN E WITH RETROFLEX HOOKatREVERSED",
  " OPEN E WITH RETROFLEX HOOKatSCHWA WITH RETROFLEX HOOKatI WITH RETROFLEX HOOKatOPEN O WITH RET",
  "ROFLEX HOOKatESH WITH RETROFLEX HOOKatU WITH RETROFLEX HOOKatEZH WITH RETROFLEX HOOKaaMODIFIER",
  " LETTER SMALL TURNED ALPHAawCax WITH CURLawETHawREVERSED OPEN EawFawDOTLESS J WITH STROKEawSCR",
  "IPT GawTURNED HawI WITH STROKEaxOTAawCAPITAL Ibf WITH STROKEawJ WITH CROSSED-TAILawL WITH RETR",
  "OFLEX HOOKbdPALATAL HOOKawCAPITAL LawM WITH HOOKawTURNED M WITH LONG LEGawN WITH LEFT HOOKbdRE",
  "TROFLEX HOOKawCAPITAL NawBARRED OawPHIawS WITH HOOKawESHawT WITH PALATAL HOOKawU BARaxPSILONaw",
  "CAPITAL UawV WITH HOOKawTURNED VawZax WITH RETROFLEX HOOKbdCURLawEZHawTHETAaaCOMBINING DOTTED ",
  "GRAVE ACCENTarACUTE ACCENTakSNAKE BELOWalUSPENSION MARKakMACRON-ACUTEakGRAVE-MACRONakMACRON-GR",
  "AVEakACUTE-MACRONakGRAVE-ACUTE-GRAVEakACUTE-GRAVE-ACUTEakLATIN SMALL LETTER R BELOWakBREVE-MAC",
  "RONakMACRON-BREVEakDOUBLE CIRCUMFLEX ABOVEakOGONEK ABOVEakZIGZAG BELOWakIS BELOWakUR ABOVEalS ",
  "ABOVEakLATIN SMALL LETTER FLATTENED OPEN A ABOVEbdAEbeObeVbdC CEDILLAbdINSULAR DbdETHbdGaqLETT",
  "ER SMALL CAPITAL GaqSMALL LETTER KbdLaqLETTER SMALL CAPITAL LblMaqSMALL LETTER NaqLETTER SMALL",
  " CAPITAL NblRaqSMALL LETTER R ROTUNDAbdSbdLONG SbdZbdALPHAbdBbeETAbdSCHWAbdFbdL WITH DOUBLE MI",
  "DDLE TILDEbdO WITH LIGHT CENTRALIZATION STROKEbdPbdESHbdU WITH LIGHT CENTRALIZATION STROKEbdWb",
  "dA WITH DIAERESISbdO WITH DIAERESISbdU WITH DIAERESISakUP TACK ABOVEakKAVYKA ABOVE RIGHTaxLEFT",
  "akDOT ABOVE LEFTakWIDE INVERTED BRIDGE BELOWakDOT BELOW LEFTalELETION MARKalOUBLE INVERTED BRE",
  "VE BELOWakALMOST EQUAL TO BELOWakLEFT ARROWHEAD ABOVEakRIGHT ARROWHEAD AND DOWN ARROWHEAD BELO",
  "WaaLATIN CAPITAL LETTER A WITH RING BELOWagSMALL LETTER A WITH RING BELOWagCAPITAL LETTER B WI",
  "TH DOT ABOVEagSMALL LETTER B WITH DOT ABOVEagCAPITAL LETTER B WITH DOT BELOWagSMALL LETTER B W",
  "ITH DOT BELOWagCAPITAL LETTER B WITH LINE BELOWagSMALL LETTER B WITH LINE BELOWagCAPITAL LETTE",
  "R C WITH CEDILLA AND ACUTEagSMALL LETTER C WITH CEDILLA AND ACUTEagCAPITAL LETTER D WITH DOT A",
  "BOVEagSMALL LETTER D WITH DOT ABOVEagCAPITAL LETTER D WITH DOT BELOWagSMALL LETTER D WITH DOT ",
  "BELOWagCAPITAL LETTER D WITH LINE BELOWagSMALL LETTER D WITH LINE BELOWagCAPITAL LETTER D WITH",
  " CEDILLAagSMALL LETTER D WITH CEDILLAagCAPITAL LETTER D WITH CIRCUMFLEX BELOWagSMALL LETTER D ",
  "WITH CIRCUMFLEX BELOWagCAPITAL LETTER E WITH MACRON AND GRAVEagSMALL LETTER E WITH MACRON AND ",
  "GRAVEagCAPITAL LETTER E WITH MACRON AND ACUTEagSMALL LETTER E WITH MACRON AND ACUTEagCAPITAL L",
  "ETTER E WITH CIRCUMFLEX BELOWagSMALL LETTER E WITH CIRCUMFLEX BELOWagCAPITAL LETTER E WITH TIL",
  "DE BELOWagSMALL LETTER E WITH TILDE BELOWagCAPITAL LETTER E WITH CEDILLA AND BREVEagSMALL LETT",
  "ER E WITH CEDILLA AND BREVEagCAPITAL LETTER F WITH DOT ABOVEagSMALL LETTER F WITH DOT ABOVEagC",
  "APITAL LETTER G WITH MACRONagSMALL LETTER G WITH MACRONagCAPITAL LETTER H WITH DOT ABOVEagSMAL",
  "L LETTER H WITH DOT ABOVEagCAPITAL LETTER H WITH DOT BELOWagSMALL LETTER H WITH DOT BELOWagCAP",
  "ITAL LETTER H WITH DIAERESISagSMALL LETTER H WITH DIAERESISagCAPITAL LETTER H WITH CEDILLAagSM",
  "ALL LETTER H WITH CEDILLAagCAPITAL LETTER H WITH BREVE BELOWagSMALL LETTER H WITH BREVE BELOWa",
  "gCAPITAL LETTER I WITH TILDE BELOWagSMALL LETTER I WITH TILDE BELOWagCAPITAL LETTER I WITH DIA",
  "ERESIS AND ACUTEagSMALL LETTER I WITH DIAERESIS AND ACUTEagCAPITAL LETTER K WITH ACUTEagSMALL ",
  "LETTER K WITH ACUTEagCAPITAL LETTER K WITH DOT BELOWagSMALL LETTER K WITH DOT BELOWagCAPITAL L",
  "ETTER K WITH LINE BELOWagSMALL LETTER K WITH LINE BELOWagCAPITAL LETTER L WITH DOT BELOWagSMAL",
  "L LETTER L WITH DOT BELOWagCAPITAL LETTER L WITH DOT BELOW AND MACRONagSMALL LETTER L WITH DOT",
  " BELOW AND MACRONagCAPITAL LETTER L WITH LINE BELOWagSMALL LETTER L WITH LINE BELOWagCAPITAL L",
  "ETTER L WITH CIRCUMFLEX BELOWagSMALL LETTER L WITH CIRCUMFLEX BELOWagCAPITAL LETTER M WITH ACU",
  "TEagSMALL LETTER M WITH ACUTEagCAPITAL LETTER M WITH DOT ABOVEagSMALL LETTER M WITH DOT ABOVEa",
  "gCAPITAL LETTER M WITH DOT BELOWagSMALL LETTER M WITH DOT BELOWagCAPITAL LETTER N WITH DOT ABO",
  "VEagSMALL LETTER N WITH DOT ABOVEagCAPITAL LETTER N WITH DOT BELOWagSMALL LETTER N WITH DOT BE",
  "LOWagCAPITAL LETTER N WITH LINE BELOWagSMALL LETTER N WITH LINE BELOWagCAPITAL LETTER N WITH C",
  "IRCUMFLEX BELOWagSMALL LETTER N WITH CIRCUMFLEX BELOWagCAPITAL LETTER O WITH TILDE AND ACUTEag",
  "SMALL LETTER O WITH TILDE AND ACUTEagCAPITAL LETTER O WITH TILDE AND DIAERESISagSMALL LETTER O",
  " WITH TILDE AND DIAERESISagCAPITAL LETTER O WITH MACRON AND GRAVEagSMALL LETTER O WITH MACRON ",
  "AND GRAVEagCAPITAL LETTER O WITH MACRON AND ACUTEagSMALL LETTER O WITH MACRON AND ACUTEagCAPIT",
  "AL LETTER P WITH ACUTEagSMALL LETTER P WITH ACUTEagCAPITAL LETTER P WITH DOT ABOVEagSMALL LETT",
  "ER P WITH DOT ABOVEagCAPITAL LETTER R WITH DOT ABOVEagSMALL LETTER R WITH DOT ABOVEagCAPITAL L",
  "ETTER R WITH DOT BELOWagSMALL LETTER R WITH DOT BELOWagCAPITAL LETTER R WITH DOT BELOW AND MAC",
  "RONagSMALL LETTER R WITH DOT BELOW AND MACRONagCAPITAL LETTER R WITH LINE BELOWagSMALL LETTER ",
  "R WITH LINE BELOWagCAPITAL LETTER S WITH DOT ABOVEagSMALL LETTER S WITH DOT ABOVEagCAPITAL LET",
  "TER S WITH DOT BELOWagSMALL LETTER S WITH DOT BELOWagCAPITAL LETTER S WITH ACUTE AND DOT ABOVE",
  "agSMALL LETTER S WITH ACUTE AND DOT ABOVEagCAPITAL LETTER S WITH CARON AND DOT ABOVEagSMALL LE",
  "TTER S WITH CARON AND DOT ABOVEagCAPITAL LETTER S WITH DOT BELOW AND DOT ABOVEagSMALL LETTER S",
  " WITH DOT BELOW AND DOT ABOVEagCAPITAL LETTER T WITH DOT ABOVEagSMALL LETTER T WITH DOT ABOVEa",
  "gCAPITAL LETTER T WITH DOT BELOWagSMALL LETTER T WITH DOT BELOWagCAPITAL LETTER T WITH LINE BE",
  "LOWagSMALL LETTER T WITH LINE BELOWagCAPITAL LETTER T WITH CIRCUMFLEX BELOWagSMALL LETTER T WI",
  "TH CIRCUMFLEX BELOWagCAPITAL LETTER U WITH DIAERESIS BELOWagSMALL LETTER U WITH DIAERESIS BELO",
  "WagCAPITAL LETTER U WITH TILDE BELOWagSMALL LETTER U WITH TILDE BELOWagCAPITAL LETTER U WITH C",
  "IRCUMFLEX BELOWagSMALL LETTER U WITH CIRCUMFLEX BELOWagCAPITAL LETTER U WITH TILDE AND ACUTEag",
  "SMALL LETTER U WITH TILDE AND ACUTEagCAPITAL LETTER U WITH MACRON AND DIAERESISagSMALL LETTER ",
  "U WITH MACRON AND DIAERESISagCAPITAL LETTER V WITH TILDEagSMALL LETTER V WITH TILDEagCAPITAL L",
  "ETTER V WITH DOT BELOWagSMALL LETTER V WITH DOT BELOWagCAPITAL LETTER W WITH GRAVEagSMALL LETT",
  "ER W WITH GRAVEagCAPITAL LETTER W WITH ACUTEagSMALL LETTER W WITH ACUTEagCAPITAL LETTER W WITH",
  " DIAERESISagSMALL LETTER W WITH DIAERESISagCAPITAL LETTER W WITH DOT ABOVEagSMALL LETTER W WIT",
  "H DOT ABOVEagCAPITAL LETTER W WITH DOT BELOWagSMALL LETTER W WITH DOT BELOWagCAPITAL LETTER X ",
  "WITH DOT ABOVEagSMALL LETTER X WITH DOT ABOVEagCAPITAL LETTER X WITH DIAERESISagSMALL LETTER X",
  " WITH DIAERESISagCAPITAL LETTER Y WITH DOT ABOVEagSMALL LETTER Y WITH DOT ABOVEagCAPITAL LETTE",
  "R Z WITH CIRCUMFLEXagSMALL LETTER Z WITH CIRCUMFLEXagCAPITAL LETTER Z WITH DOT BELOWagSMALL LE",
  "TTER Z WITH DOT BELOWagCAPITAL LETTER Z WITH LINE BELOWagSMALL LETTER Z WITH LINE BELOWatH WIT",
  "H LINE BELOWatT WITH DIAERESISatW WITH RING ABOVEatY WITH RING ABOVEatA WITH RIGHT HALF RINGat",
  "LONG S WITH DOT ABOVEbgIAGONAL STROKEbfHIGH STROKEagCAPITAL LETTER SHARP SagSMALL LETTER DELTA",
  "agCAPITAL LETTER A WITH DOT BELOWagSMALL LETTER A WITH DOT BELOWagCAPITAL LETTER A WITH HOOK A",
  "BOVEagSMALL LETTER A WITH HOOK ABOVEagCAPITAL LETTER A WITH CIRCUMFLEX AND ACUTEagSMALL LETTER",
  " A WITH CIRCUMFLEX AND ACUTEagCAPITAL LETTER A WITH CIRCUMFLEX AND GRAVEagSMALL LETTER A WITH ",
  "CIRCUMFLEX AND GRAVEagCAPITAL LETTER A WITH CIRCUMFLEX AND HOOK ABOVEagSMALL LETTER A WITH CIR",
  "CUMFLEX AND HOOK ABOVEagCAPITAL LETTER A WITH CIRCUMFLEX AND TILDEagSMALL LETTER A WITH CIRCUM",
  "FLEX AND TILDEagCAPITAL LETTER A WITH CIRCUMFLEX AND DOT BELOWagSMALL LETTER A WITH CIRCUMFLEX",
  " AND DOT BELOWagCAPITAL LETTER A WITH BREVE AND ACUTEagSMALL LETTER A WITH BREVE AND ACUTEagCA",
  "PITAL LETTER A WITH BREVE AND GRAVEagSMALL LETTER A WITH BREVE AND GRAVEagCAPITAL LETTER A WIT",
  "H BREVE AND HOOK ABOVEagSMALL LETTER A WITH BREVE AND HOOK ABOVEagCAPITAL LETTER A WITH BREVE ",
  "AND TILDEagSMALL LETTER A WITH BREVE AND TILDEagCAPITAL LETTER A WITH BREVE AND DOT BELOWagSMA",
  "LL LETTER A WITH BREVE AND DOT BELOWagCAPITAL LETTER E WITH DOT BELOWagSMALL LETTER E WITH DOT",
  " BELOWagCAPITAL LETTER E WITH HOOK ABOVEagSMALL LETTER E WITH HOOK ABOVEagCAPITAL LETTER E WIT",
  "H TILDEagSMALL LETTER E WITH TILDEagCAPITAL LETTER E WITH CIRCUMFLEX AND ACUTEagSMALL LETTER E",
  " WITH CIRCUMFLEX AND ACUTEagCAPITAL LETTER E WITH CIRCUMFLEX AND GRAVEagSMALL LETTER E WITH CI",
  "RCUMFLEX AND GRAVEagCAPITAL LETTER E WITH CIRCUMFLEX AND HOOK ABOVEagSMALL LETTER E WITH CIRCU",
  "MFLEX AND HOOK ABOVEagCAPITAL LETTER E WITH CIRCUMFLEX AND TILDEagSMALL LETTER E WITH CIRCUMFL",
  "EX AND TILDEagCAPITAL LETTER E WITH CIRCUMFLEX AND DOT BELOWagSMALL LETTER E WITH CIRCUMFLEX A",
  "ND DOT BELOWagCAPITAL LETTER I WITH HOOK ABOVEagSMALL LETTER I WITH HOOK ABOVEagCAPITAL LETTER",
  " I WITH DOT BELOWagSMALL LETTER I WITH DOT BELOWagCAPITAL LETTER O WITH DOT BELOWagSMALL LETTE",
  "R O WITH DOT BELOWagCAPITAL LETTER O WITH HOOK ABOVEagSMALL LETTER O WITH HOOK ABOVEagCAPITAL ",
  "LETTER O WITH CIRCUMFLEX AND ACUTEagSMALL LETTER O WITH CIRCUMFLEX AND ACUTEagCAPITAL LETTER O",
  " WITH CIRCUMFLEX AND GRAVEagSMALL LETTER O WITH CIRCUMFLEX AND GRAVEagCAPITAL LETTER O WITH CI",
  "RCUMFLEX AND HOOK ABOVEagSMALL LETTER O WITH CIRCUMFLEX AND HOOK ABOVEagCAPITAL LETTER O WITH ",
  "CIRCUMFLEX AND TILDEagSMALL LETTER O WITH CIRCUMFLEX AND TILDEagCAPITAL LETTER O WITH CIRCUMFL",
  "EX AND DOT BELOWagSMALL LETTER O WITH CIRCUMFLEX AND DOT BELOWagCAPITAL LETTER O WITH HORN AND",
  " ACUTEagSMALL LETTER O WITH HORN AND ACUTEagCAPITAL LETTER O WITH HORN AND GRAVEagSMALL LETTER",
  " O WITH HORN AND GRAVEagCAPITAL LETTER O WITH HORN AND HOOK ABOVEagSMALL LETTER O WITH HORN AN",
  "D HOOK ABOVEagCAPITAL LETTER O WITH HORN AND TILDEagSMALL LETTER O WITH HORN AND TILDEagCAPITA",
  "L LETTER O WITH HORN AND DOT BELOWagSMALL LETTER O WITH HORN AND DOT BELOWagCAPITAL LETTER U W",
  "ITH DOT BELOWagSMALL LETTER U WITH DOT BELOWagCAPITAL LETTER U WITH HOOK ABOVEagSMALL LETTER U",
  " WITH HOOK ABOVEagCAPITAL LETTER U WITH HORN AND ACUTEagSMALL LETTER U WITH HORN AND ACUTEagCA",
  "PITAL LETTER U WITH HORN AND GRAVEagSMALL LETTER U WITH HORN AND GRAVEagCAPITAL LETTER U WITH ",
  "HORN AND HOOK ABOVEagSMALL LETTER U WITH HORN AND HOOK ABOVEagCAPITAL LETTER U WITH HORN AND T",
  "ILDEagSMALL LETTER U WITH HORN AND TILDEagCAPITAL LETTER U WITH HORN AND DOT BELOWagSMALL LETT",
  "ER U WITH HORN AND DOT BELOWagCAPITAL LETTER Y WITH GRAVEagSMALL LETTER Y WITH GRAVEagCAPITAL ",
  "LETTER Y WITH DOT BELOWagSMALL LETTER Y WITH DOT BELOWagCAPITAL LETTER Y WITH HOOK ABOVEagSMAL",
  "L LETTER Y WITH HOOK ABOVEagCAPITAL LETTER Y WITH TILDEagSMALL LETTER Y WITH TILDEagCAPITAL LE",
  "TTER MIDDLE-WELSH LLagSMALL LETTER MIDDLE-WELSH LLagCAPITAL LETTER MIDDLE-WELSH VagSMALL LETTE",
  "R MIDDLE-WELSH VagCAPITAL LETTER Y WITH LOOPagSMALL LETTER Y WITH LOOPaaGREEK SMALL LETTER ALP",
  "HA WITH PSILIbeDASIAbePSILI AND VARIAbeDASIA AND VARIAbePSILI AND OXIAbeDASIA AND OXIAbePSILI ",
  "AND PERISPOMENIbeDASIA AND PERISPOMENIagCAPITAL LETTER ALPHA WITH PSILIbgDASIAbgPSILI AND VARI",
  "AbgDASIA AND VARIAbgPSILI AND OXIAbgDASIA AND OXIAbgPSILI AND PERISPOMENIbgDASIA AND PERISPOME",
  "NIagSMALL LETTER EPSILON WITH PSILIbgDASIAbgPSILI AND VARIAbgDASIA AND VARIAbgPSILI AND OXIAbg",
  "DASIA AND OXIA@01F18agCAPITAL LETTER EPSILON WITH PSILIbiDASIAbiPSILI AND VARIAbiDASIA AND VAR",
  "IAbiPSILI AND OXIAbiDASIA AND OXIA@01F20agSMALL LETTER ETA WITH PSILIbcDASIAbcPSILI AND VARIAb",
  "cDASIA AND VARIAbcPSILI AND OXIAbcDASIA AND OXIAbcPSILI AND PERISPOMENIbcDASIA AND PERISPOMENI",
  "agCAPITAL LETTER ETA WITH PSILIbeDASIAbePSILI AND VARIAbeDASIA AND VARIAbePSILI AND OXIAbeDASI",
  "A AND OXIAbePSILI AND PERISPOMENIbeDASIA AND PERISPOMENIagSMALL LETTER IOTA WITH PSILIbdDASIAb",
  "dPSILI AND VARIAbdDASIA AND VARIAbdPSILI AND OXIAbdDASIA AND OXIAbdPSILI AND PERISPOMENIbdDASI",
  "A AND PERISPOMENIagCAPITAL LETTER IOTA WITH PSILIbfDASIAbfPSILI AND VARIAbfDASIA AND VARIAbfPS",
  "ILI AND OXIAbfDASIA AND OXIAbfPSILI AND PERISPOMENIbfDASIA AND PERISPOMENIagSMALL LETTER OMICR",
  "ON WITH PSILIbgDASIAbgPSILI AND VARIAbgDASIA AND VARIAbgPSILI AND OXIAbgDASIA AND OXIA@01F48ag",
  "CAPITAL LETTER OMICRON WITH PSILIbiDASIAbiPSILI AND VARIAbiDASIA AND VARIAbiPSILI AND OXIAbiDA",
  "SIA AND OXIA@01F50agSMALL LETTER UPSILON WITH PSILIbgDASIAbgPSILI AND VARIAbgDASIA AND VARIAbg",
  "PSILI AND OXIAbgDASIA AND OXIAbgPSILI AND PERISPOMENIbgDASIA AND PERISPOMENI@01F59agCAPITAL LE",
  "TTER UPSILON WITH DASIA@01F5Bbn AND VARIA@01F5DbsOXIA@01F5FbsPERISPOMENIagSMALL LETTER OMEGA W",
  "ITH PSILIbeDASIAbePSILI AND VARIAbeDASIA AND VARIAbePSILI AND OXIAbeDASIA AND OXIAbePSILI AND ",
  "PERISPOMENIbeDASIA AND PERISPOMENIagCAPITAL LETTER OMEGA WITH PSILIbgDASIAbgPSILI AND VARIAbgD",
  "ASIA AND VARIAbgPSILI AND OXIAbgDASIA AND OXIAbgPSILI AND PERISPOMENIbgDASIA AND PERISPOMENIag",
  "SMALL LETTER ALPHA WITH VARIAbeOXIAatEPSILON WITH VARIAbgOXIAauTA WITH VARIAbcOXIAatIOTA WITH ",
  "VARIAbdOXIAatOMICRON WITH VARIAbgOXIAatUPSILON WITH VARIAbgOXIAatOMEGA WITH VARIAbeOXIA@01F80a",
  "tALPHA WITH PSILI AND YPOGEGRAMMENIbeDASIA AND YPOGEGRAMMENIbePSILI AND VARIA AND YPOGEGRAMMEN",
  "IbeDASIA AND VARIA AND YPOGEGRAMMENIbePSILI AND OXIA AND YPOGEGRAMMENIbeDASIA AND OXIA AND YPO",
  "GEGRAMMENIbePSILI AND PERISPOMENI AND YPOGEGRAMMENIbeDASIA AND PERISPOMENI AND YPOGEGRAMMENIag",
  "CAPITAL LETTER ALPHA WITH PSILI AND PROSGEGRAMMENIbgDASIA AND PROSGEGRAMMENIbgPSILI AND VARIA ",
  "AND PROSGEGRAMMENIbgDASIA AND VARIA AND PROSGEGRAMMENIbgPSILI AND OXIA AND PROSGEGRAMMENIbgDAS",
  "IA AND OXIA AND PROSGEGRAMMENIbgPSILI AND PERISPOMENI AND PROSGEGRAMMENIbgDASIA AND PERISPOMEN",
  "I AND PROSGEGRAMMENIagSMALL LETTER ETA WITH PSILI AND YPOGEGRAMMENIbcDASIA AND YPOGEGRAMMENIbc",
  "PSILI AND VARIA AND YPOGEGRAMMENIbcDASIA AND VARIA AND YPOGEGRAMMENIbcPSILI AND OXIA AND YPOGE",
  "GRAMMENIbcDASIA AND OXIA AND YPOGEGRAMMENIbcPSILI AND PERISPOMENI AND YPOGEGRAMMENIbcDASIA AND",
  " PERISPOMENI AND YPOGEGRAMMENIagCAPITAL LETTER ETA WITH PSILI AND PROSGEGRAMMENIbeDASIA AND PR",
  "OSGEGRAMMENIbePSILI AND VARIA AND PROSGEGRAMMENIbeDASIA AND VARIA AND PROSGEGRAMMENIbePSILI AN",
  "D OXIA AND PROSGEGRAMMENIbeDASIA AND OXIA AND PROSGEGRAMMENIbePSILI AND PERISPOMENI AND PROSGE",
  "GRAMMENIbeDASIA AND PERISPOMENI AND PROSGEGRAMMENIagSMALL LETTER OMEGA WITH PSILI AND YPOGEGRA",
  "MMENIbeDASIA AND YPOGEGRAMMENIbePSILI AND VARIA AND YPOGEGRAMMENIbeDASIA AND VARIA AND YPOGEGR",
  "AMMENIbePSILI AND OXIA AND YPOGEGRAMMENIbeDASIA AND OXIA AND YPOGEGRAMMENIbePSILI AND PERISPOM",
  "ENI AND YPOGEGRAMMENIbeDASIA AND PERISPOMENI AND YPOGEGRAMMENIagCAPITAL LETTER OMEGA WITH PSIL",
  "I AND PROSGEGRAMMENIbgDASIA AND PROSGEGRAMMENIbgPSILI AND VARIA AND PROSGEGRAMMENIbgDASIA AND ",
  "VARIA AND PROSGEGRAMMENIbgPSILI AND OXIA AND PROSGEGRAMMENIbgDASIA AND OXIA AND PROSGEGRAMMENI",
  "bgPSILI AND PERISPOMENI AND PROSGEGRAMMENIbgDASIA AND PERISPOMENI AND PROSGEGRAMMENIagSMALL LE",
  "TTER ALPHA WITH VRACHYbeMACRONbeVARIA AND YPOGEGRAMMENIbeYPOGEGRAMMENIbeOXIA AND YPOGEGRAMMENI",
  "@01FB6bePERISPOMENIbp AND YPOGEGRAMMENIagCAPITAL LETTER ALPHA WITH VRACHYbgMACRONbgVARIAbgOXIA",
  "bgPROSGEGRAMMENIagKORONISagPROSGEGRAMMENIahSILIahERISPOMENIagDIALYTIKA AND PERISPOMENIagSMALL ",
  "LETTER ETA WITH VARIA AND YPOGEGRAMMENIbcYPOGEGRAMMENIbcOXIA AND YPOGEGRAMMENI@01FC6bcPERISPOM",
  "ENIbn AND YPOGEGRAMMENIagCAPITAL LETTER EPSILON WITH VARIAbiOXIAawTA WITH VARIAbeOXIAbePROSGEG",
  "RAMMENIagPSILI AND VARIAaqOXIAaqPERISPOMENIagSMALL LETTER IOTA WITH VRACHYbdMACRONbdDIALYTIKA ",
  "AND VARIAbrOXIA@01FD6bdPERISPOMENIbdDIALYTIKA AND PERISPOMENIagCAPITAL LETTER IOTA WITH VRACHY",
  "bfMACRONbfVARIAbfOXIA@01FDDagDASIA AND VARIAaqOXIAaqPERISPOMENIagSMALL LETTER UPSILON WITH VRA",
  "CHYbgMACRONbgDIALYTIKA AND VARIAbuOXIAatRHO WITH PSILIbcDASIAatUPSILON WITH PERISPOMENIbgDIALY",
  "TIKA AND PERISPOMENIagCAPITAL LETTER UPSILON WITH VRACHYbiMACRONbiVARIAbiOXIAavRHO WITH DASIAa",
  "gDIALYTIKA AND VARIAauOXIAagVARIA@01FF2agSMALL LETTER OMEGA WITH VARIA AND YPOGEGRAMMENIbeYPOG",
  "EGRAMMENIbeOXIA AND YPOGEGRAMMENI@01FF6bePERISPOMENIbp AND YPOGEGRAMMENIagCAPITAL LETTER OMICR",
  "ON WITH VARIAbiOXIAaxEGA WITH VARIAbgOXIAbgPROSGEGRAMMENIagOXIAagDASIA"]

end EntityGen.Text.CharName
