/-! Names of characters: signs and symbols. -/

namespace EntityGen.Text.CharName

/-- Names by code point, in the form that `CharName.find?` reads. -/
def symbolsNames : List String := [
  "@02000aaEN QUADabM QUADabN SPACEabM SPACEaaTHREE-PER-EM SPACEaaFOUR-PER-EM SPACEaaSIX-PER-EM S",
  "PACEaaFIGURE SPACEaaPUNCTUATION SPACEaaTHIN SPACEaaHAIR SPACEaaZERO WIDTH SPACEalNON-JOINERalJ",
  "OINERaaLEFT-TO-RIGHT MARKaaRIGHT-TO-LEFT MARKaaHYPHENaaNON-BREAKING HYPHENaaFIGURE DASHaaEN DA",
  "SHabM DASHaaHORIZONTAL BARaaDOUBLE VERTICAL LINEahLOW LINEaaLEFT SINGLE QUOTATION MARKaaRIGHT ",
  "SINGLE QUOTATION MARKaaSINGLE LOW-9 QUOTATION MARKahHIGH-REVERSED-9 QUOTATION MARKaaLEFT DOUBL",
  "E QUOTATION MARKaaRIGHT DOUBLE QUOTATION MARKaaDOUBLE LOW-9 QUOTATION MARKahHIGH-REVERSED-9 QU",
  "OTATION MARKabAGGERabOUBLE DAGGERaaBULLETaaTRIANGULAR BULLETaaONE DOT LEADERaaTWO DOT LEADERaa",
  "HORIZONTAL ELLIPSISabYPHENATION POINTaaLINE SEPARATORaaPARAGRAPH SEPARATORaaLEFT-TO-RIGHT EMBE",
  "DDINGaaRIGHT-TO-LEFT EMBEDDINGaaPOP DIRECTIONAL FORMATTINGaaLEFT-TO-RIGHT OVERRIDEaaRIGHT-TO-L",
  "EFT OVERRIDEaaNARROW NO-BREAK SPACEaaPER MILLE SIGNaeTEN THOUSAND SIGNabRIMEaaDOUBLE PRIMEaaTR",
  "IPLE PRIMEaaREVERSED PRIMEajDOUBLE PRIMEajTRIPLE PRIMEaaCARETaaSINGLE LEFT-POINTING ANGLE QUOT",
  "ATION MARKahRIGHT-POINTING ANGLE QUOTATION MARKaaREFERENCE MARKaaDOUBLE EXCLAMATION MARKaaINTE",
  "RROBANGaaOVERLINEaaUNDERTIEaaCHARACTER TIEabARET INSERTION POINTaaASTERISMaaHYPHEN BULLETaaFRA",
  "CTION SLASHaaLEFT SQUARE BRACKET WITH QUILLaaRIGHT SQUARE BRACKET WITH QUILLaaDOUBLE QUESTION ",
  "MARKaaQUESTION EXCLAMATION MARKaaEXCLAMATION QUESTION MARKaaTIRONIAN SIGN ETaaREVERSED PILCROW",
  " SIGNaaBLACK LEFTWARDS BULLETagRIGHTWARDS BULLETaaLOW ASTERISKaaREVERSED SEMICOLONaaCLOSE UPaa",
  "TWO ASTERISKS ALIGNED VERTICALLYaaCOMMERCIAL MINUS SIGNaaSWUNG DASHaaINVERTED UNDERTIEaaFLOWER",
  " PUNCTUATION MARKaaTHREE DOT PUNCTUATIONaaQUADRUPLE PRIMEaaFOUR DOT PUNCTUATIONabIVE DOT PUNCT",
  "UATIONaaTWO DOT PUNCTUATIONaaFOUR DOT MARKaaDOTTED CROSSaaTRICOLONaaVERTICAL FOUR DOTSaaMEDIUM",
  " MATHEMATICAL SPACEaaWORD JOINERaaFUNCTION APPLICATIONaaINVISIBLE TIMESakSEPARATORakPLUS@02066",
  "aaLEFT-TO-RIGHT ISOLATEaaRIGHT-TO-LEFT ISOLATEaaFIRST STRONG ISOLATEaaPOP DIRECTIONAL ISOLATEa",
  "aINHIBIT SYMMETRIC SWAPPINGaaACTIVATE SYMMETRIC SWAPPINGaaINHIBIT ARABIC FORM SHAPINGaaACTIVAT",
  "E ARABIC FORM SHAPINGaaNATIONAL DIGIT SHAPESabOMINAL DIGIT SHAPESaaSUPERSCRIPT ZEROamLATIN SMA",
  "LL LETTER I@02074amFOURanIVEamSIXanEVENamEIGHTamNINEamPLUS SIGNamMINUSamEQUALS SIGNamLEFT PARE",
  "NTHESISamRIGHT PARENTHESISamLATIN SMALL LETTER NacBSCRIPT ZEROakONEakTWOalHREEakFOURalIVEakSIX",
  "alEVENakEIGHTakNINEakPLUS SIGNakMINUSakEQUALS SIGNakLEFT PARENTHESISakRIGHT PARENTHESIS@02090a",
  "aLATIN SUBSCRIPT SMALL LETTER AbdEbdObdXbdSCHWAbdHbdKbdLbdMbdNbdPbdSbdT@020A0aaEURO-CURRENCY S",
  "IGNaaCOLON SIGNabRUZEIRO SIGNaaFRENCH FRANC SIGNaaLIRA SIGNaaMILL SIGNaaNAIRA SIGNaaPESETA SIG",
  "NaaRUPEE SIGNaaWON SIGNaaNEW SHEQEL SIGNaaDONG SIGNaaEURO SIGNaaKIP SIGNaaTUGRIK SIGNaaDRACHMA",
  " SIGNaaGERMAN PENNY SIGNaaPESO SIGNaaGUARANI SIGNaaAUSTRAL SIGNaaHRYVNIA SIGNaaCEDI SIGNaaLIVR",
  "E TOURNOIS SIGNaaSPESMILO SIGNaaTENGE SIGNaaINDIAN RUPEE SIGNaaTURKISH LIRA SIGNaaNORDIC MARK ",
  "SIGNaaMANAT SIGNaaRUBLE SIGNaaLARI SIGNaaBITCOIN SIGNaaSOM SIGN@020D0aaCOMBINING LEFT HARPOON ",
  "ABOVEakRIGHT HARPOON ABOVEakLONG VERTICAL LINE OVERLAYakSHORT VERTICAL LINE OVERLAYakANTICLOCK",
  "WISE ARROW ABOVEakCLOCKWISE ARROW ABOVEakLEFT ARROW ABOVEakRIGHT ARROW ABOVEamNG OVERLAYakCLOC",
  "KWISE RING OVERLAYakANTICLOCKWISE RING OVERLAYakTHREE DOTS ABOVEakFOUR DOTS ABOVEakENCLOSING C",
  "IRCLEauSQUAREauDIAMONDauCIRCLE BACKSLASHakLEFT RIGHT ARROW ABOVEakENCLOSING SCREENauKEYCAPauUP",
  "WARD POINTING TRIANGLEakREVERSE SOLIDUS OVERLAYakDOUBLE VERTICAL STROKE OVERLAYakANNUITY SYMBO",
  "LakTRIPLE UNDERDOTakWIDE BRIDGE ABOVEakLEFTWARDS ARROW OVERLAYalONG DOUBLE SOLIDUS OVERLAYakRI",
  "GHTWARDS HARPOON WITH BARB DOWNWARDSakLEFTWARDS HARPOON WITH BARB DOWNWARDSao ARROW BELOWakRIG",
  "HT ARROW BELOWakASTERISK ABOVE@02100aaACCOUNT OFabDDRESSED TO THE SUBJECTaaDOUBLE-STRUCK CAPIT",
  "AL CabEGREE CELSIUSaaCENTRE LINE SYMBOLabARE OFacDA UNAaaEULER CONSTANTaaSCRUPLEaaDEGREE FAHRE",
  "NHEITaaSCRIPT SMALL GahCAPITAL HaaBLACK-LETTER CAPITAL HaaDOUBLE-STRUCK CAPITAL HaaPLANCK CONS",
  "TANTap OVER TWO PIaaSCRIPT CAPITAL IaaBLACK-LETTER CAPITAL IaaSCRIPT CAPITAL LahSMALL LaaL B B",
  "AR SYMBOLaaDOUBLE-STRUCK CAPITAL NaaNUMERO SIGNaaSOUND RECORDING COPYRIGHTabCRIPT CAPITAL PaaD",
  "OUBLE-STRUCK CAPITAL PawQaaSCRIPT CAPITAL RaaBLACK-LETTER CAPITAL RaaDOUBLE-STRUCK CAPITAL Raa",
  "PRESCRIPTION TAKEaaRESPONSEaaSERVICE MARKaaTELEPHONE SIGNabRADE MARK SIGNaaVERSICLEaaDOUBLE-ST",
  "RUCK CAPITAL ZaaOUNCE SIGNabHM SIGNaaINVERTED OHM SIGNaaBLACK-LETTER CAPITAL ZaaTURNED GREEK S",
  "MALL LETTER IOTAaaKELVIN SIGNaaANGSTROM SIGNaaSCRIPT CAPITAL BaaBLACK-LETTER CAPITAL CaaESTIMA",
  "TED SYMBOLaaSCRIPT SMALL EahCAPITAL EapFaaTURNED CAPITAL FaaSCRIPT CAPITAL MahSMALL OaaALEF SY",
  "MBOLaaBET SYMBOLaaGIMEL SYMBOLaaDALET SYMBOLaaINFORMATION SOURCEaaROTATED CAPITAL QaaFACSIMILE",
  " SIGNaaDOUBLE-STRUCK SMALL PIauGAMMAaoCAPITAL GAMMAawPIaoN-ARY SUMMATIONaaTURNED SANS-SERIF CA",
  "PITAL GbaLaaREVERSED SANS-SERIF CAPITAL LaaTURNED SANS-SERIF CAPITAL YaaDOUBLE-STRUCK ITALIC C",
  "APITAL DavSMALL DbbEbbIbbJaaPROPERTY LINEaaTURNED AMPERSANDaaPER SIGNaaAKTIESELSKABaaTURNED SM",
  "ALL FaaSYMBOL FOR SAMARITAN SOURCEaaVULGAR FRACTION ONE SEVENTHauNINTHauTENTHavHIRDaqTWO THIRD",
  "SaqONE FIFTHaqTWO FIFTHSarHREE FIFTHSaqFOUR FIFTHSaqONE SIXTHaqFIVE SIXTHSaqONE EIGHTHaqTHREE ",
  "EIGHTHSaqFIVE EIGHTHSaqSEVEN EIGHTHSaaFRACTION NUMERATOR ONEaaROMAN NUMERAL ONEaoTWOapHREEaoFO",
  "URapIVEaoSIXapEVENaoEIGHTaoNINEaoTENaoELEVENaoTWELVEaoFIFTYaoONE HUNDREDaoFIVE HUNDREDaoONE TH",
  "OUSANDaaSMALL ROMAN NUMERAL ONEauTWOavHREEauFOURavIVEauSIXavEVENauEIGHTauNINEauTENauELEVENauTW",
  "ELVEauFIFTYauONE HUNDREDauFIVE HUNDREDauONE THOUSANDaaROMAN NUMERAL ONE THOUSAND C DaoFIVE THO",
  "USANDaoTEN THOUSANDaoREVERSED ONE HUNDREDaaLATIN SMALL LETTER REVERSED CaaROMAN NUMERAL SIX LA",
  "TE FORMaoFIFTY EARLY FORMauTHOUSANDaoONE HUNDRED THOUSANDaaVULGAR FRACTION ZERO THIRDSaaTURNED",
  " DIGIT TWOaoHREE@02190aaLEFTWARDS ARROWaaUPWARDS ARROWaaRIGHTWARDS ARROWaaDOWNWARDS ARROWaaLEF",
  "T RIGHT ARROWaaUP DOWN ARROWaaNORTH WEST ARROWagEAST ARROWaaSOUTH EAST ARROWagWEST ARROWaaLEFT",
  "WARDS ARROW WITH STROKEaaRIGHTWARDS ARROW WITH STROKEaaLEFTWARDS WAVE ARROWaaRIGHTWARDS WAVE A",
  "RROWaaLEFTWARDS TWO HEADED ARROWaaUPWARDS TWO HEADED ARROWaaRIGHTWARDS TWO HEADED ARROWaaDOWNW",
  "ARDS TWO HEADED ARROWaaLEFTWARDS ARROW WITH TAILaaRIGHTWARDS ARROW WITH TAILaaLEFTWARDS ARROW ",
  "FROM BARaaUPWARDS ARROW FROM BARaaRIGHTWARDS ARROW FROM BARaaDOWNWARDS ARROW FROM BARaaUP DOWN",
  " ARROW WITH BASEaaLEFTWARDS ARROW WITH HOOKaaRIGHTWARDS ARROW WITH HOOKaaLEFTWARDS ARROW WITH ",
  "LOOPaaRIGHTWARDS ARROW WITH LOOPaaLEFT RIGHT WAVE ARROWalARROW WITH STROKEaaDOWNWARDS ZIGZAG A",
  "RROWaaUPWARDS ARROW WITH TIP LEFTWARDSaxRIGHTWARDSaaDOWNWARDS ARROW WITH TIP LEFTWARDSazRIGHTW",
  "ARDSaaRIGHTWARDS ARROW WITH CORNER DOWNWARDSaaDOWNWARDS ARROW WITH CORNER LEFTWARDSaaANTICLOCK",
  "WISE TOP SEMICIRCLE ARROWaaCLOCKWISE TOP SEMICIRCLE ARROWaaNORTH WEST ARROW TO LONG BARaaLEFTW",
  "ARDS ARROW TO BAR OVER RIGHTWARDS ARROW TO BARaaANTICLOCKWISE OPEN CIRCLE ARROWaaCLOCKWISE OPE",
  "N CIRCLE ARROWaaLEFTWARDS HARPOON WITH BARB UPWARDSbcDOWNWARDSaaUPWARDS HARPOON WITH BARB RIGH",
  "TWARDSbaLEFTWARDSaaRIGHTWARDS HARPOON WITH BARB UPWARDSbdDOWNWARDSaaDOWNWARDS HARPOON WITH BAR",
  "B RIGHTWARDSbcLEFTWARDSaaRIGHTWARDS ARROW OVER LEFTWARDS ARROWaaUPWARDS ARROW LEFTWARDS OF DOW",
  "NWARDS ARROWaaLEFTWARDS ARROW OVER RIGHTWARDS ARROWakPAIRED ARROWSaaUPWARDS PAIRED ARROWSaaRIG",
  "HTWARDS PAIRED ARROWSaaDOWNWARDS PAIRED ARROWSaaLEFTWARDS HARPOON OVER RIGHTWARDS HARPOONaaRIG",
  "HTWARDS HARPOON OVER LEFTWARDS HARPOONaaLEFTWARDS DOUBLE ARROW WITH STROKEae RIGHT DOUBLE ARRO",
  "W WITH STROKEaaRIGHTWARDS DOUBLE ARROW WITH STROKEaaLEFTWARDS DOUBLE ARROWaaUPWARDS DOUBLE ARR",
  "OWaaRIGHTWARDS DOUBLE ARROWaaDOWNWARDS DOUBLE ARROWaaLEFT RIGHT DOUBLE ARROWaaUP DOWN DOUBLE A",
  "RROWaaNORTH WEST DOUBLE ARROWagEAST DOUBLE ARROWaaSOUTH EAST DOUBLE ARROWagWEST DOUBLE ARROWaa",
  "LEFTWARDS TRIPLE ARROWaaRIGHTWARDS TRIPLE ARROWaaLEFTWARDS SQUIGGLE ARROWaaRIGHTWARDS SQUIGGLE",
  " ARROWaaUPWARDS ARROW WITH DOUBLE STROKEaaDOWNWARDS ARROW WITH DOUBLE STROKEaaLEFTWARDS DASHED",
  " ARROWaaUPWARDS DASHED ARROWaaRIGHTWARDS DASHED ARROWaaDOWNWARDS DASHED ARROWaaLEFTWARDS ARROW",
  " TO BARaaRIGHTWARDS ARROW TO BARaaLEFTWARDS WHITE ARROWaaUPWARDS WHITE ARROWaaRIGHTWARDS WHITE",
  " ARROWaaDOWNWARDS WHITE ARROWaaUPWARDS WHITE ARROW FROM BARauON PEDESTALbf WITH HORIZONTAL BAR",
  "blVERTICAL BARaoDOUBLE ARROWba ON PEDESTALaaRIGHTWARDS WHITE ARROW FROM WALLaaNORTH WEST ARROW",
  " TO CORNERaaSOUTH EAST ARROW TO CORNERaaUP DOWN WHITE ARROWaaRIGHT ARROW WITH SMALL CIRCLEaaDO",
  "WNWARDS ARROW LEFTWARDS OF UPWARDS ARROWaaTHREE RIGHTWARDS ARROWSaaLEFTWARDS ARROW WITH VERTIC",
  "AL STROKEaaRIGHTWARDS ARROW WITH VERTICAL STROKEaaLEFT RIGHT ARROW WITH VERTICAL STROKEaeWARDS",
  " ARROW WITH DOUBLE VERTICAL STROKEaaRIGHTWARDS ARROW WITH DOUBLE VERTICAL STROKEaaLEFT RIGHT A",
  "RROW WITH DOUBLE VERTICAL STROKEaeWARDS OPEN-HEADED ARROWaaRIGHTWARDS OPEN-HEADED ARROWaaLEFT ",
  "RIGHT OPEN-HEADED ARROWaaFOR ALLaaCOMPLEMENTaaPARTIAL DIFFERENTIALaaTHERE EXISTSagDOES NOT EXI",
  "STaaEMPTY SETaaINCREMENTaaNABLAaaELEMENT OFaaNOT AN ELEMENT OFaaSMALL ELEMENT OFaaCONTAINS AS ",
  "MEMBERaaDOES NOT CONTAIN AS MEMBERaaSMALL CONTAINS AS MEMBERaaEND OF PROOFaaN-ARY PRODUCTagCOP",
  "RODUCTagSUMMATIONaaMINUS SIGNaf-OR-PLUS SIGNaaDOT PLUSabIVISION SLASHaaSET MINUSaaASTERISK OPE",
  "RATORaaRING OPERATORaaBULLET OPERATORaaSQUARE ROOTaaCUBE ROOTaaFOURTH ROOTaaPROPORTIONAL TOaaI",
  "NFINITYaaRIGHT ANGLEaaANGLEaaMEASURED ANGLEaaSPHERICAL ANGLEaaDIVIDESabOES NOT DIVIDEaaPARALLE",
  "L TOaaNOT PARALLEL TOaaLOGICAL ANDaiORaaINTERSECTIONaaUNIONaaINTEGRALaaDOUBLE INTEGRALaaTRIPLE",
  " INTEGRALaaCONTOUR INTEGRALaaSURFACE INTEGRALaaVOLUME INTEGRALaaCLOCKWISE INTEGRALakCONTOUR IN",
  "TEGRALaaANTICLOCKWISE CONTOUR INTEGRALaaTHEREFOREaaBECAUSEaaRATIOaaPROPORTIONaaDOT MINUSaaEXCE",
  "SSaaGEOMETRIC PROPORTIONaaHOMOTHETICaaTILDE OPERATORaaREVERSED TILDEaaINVERTED LAZY SaaSINE WA",
  "VEaaWREATH PRODUCTaaNOT TILDEaaMINUS TILDEaaASYMPTOTICALLY EQUAL TOaaNOT ASYMPTOTICALLY EQUAL ",
  "TOaaAPPROXIMATELY EQUAL TOaoBUT NOT ACTUALLY EQUAL TOaaNEITHER APPROXIMATELY NOR ACTUALLY EQUA",
  "L TOaaALMOST EQUAL TOaaNOT ALMOST EQUAL TOaaALMOST EQUAL OR EQUAL TOaaTRIPLE TILDEaaALL EQUAL ",
  "TOaaEQUIVALENT TOaaGEOMETRICALLY EQUIVALENT TOaaDIFFERENCE BETWEENaaAPPROACHES THE LIMITaaGEOM",
  "ETRICALLY EQUAL TOaaAPPROXIMATELY EQUAL TO OR THE IMAGE OFaaIMAGE OF OR APPROXIMATELY EQUAL TO",
  "aaCOLON EQUALSaaEQUALS COLONaaRING IN EQUAL TOafEQUAL TOaaCORRESPONDS TOaaESTIMATESabQUIANGULA",
  "R TOaaSTAR EQUALSaaDELTA EQUAL TOaaEQUAL TO BY DEFINITIONaaMEASURED BYaaQUESTIONED EQUAL TOaaN",
  "OT EQUAL TOaaIDENTICAL TOaaNOT IDENTICAL TOaaSTRICTLY EQUIVALENT TOaaLESS-THAN OR EQUAL TOaaGR",
  "EATER-THAN OR EQUAL TOaaLESS-THAN OVER EQUAL TOaaGREATER-THAN OVER EQUAL TOaaLESS-THAN BUT NOT",
  " EQUAL TOaaGREATER-THAN BUT NOT EQUAL TOaaMUCH LESS-THANafGREATER-THANaaBETWEENaaNOT EQUIVALEN",
  "T TOaeLESS-THANaeGREATER-THANabEITHER LESS-THAN NOR EQUAL TOaiGREATER-THAN NOR EQUAL TOaaLESS-",
  "THAN OR EQUIVALENT TOaaGREATER-THAN OR EQUIVALENT TOaaNEITHER LESS-THAN NOR EQUIVALENT TOaiGRE",
  "ATER-THAN NOR EQUIVALENT TOaaLESS-THAN OR GREATER-THANaaGREATER-THAN OR LESS-THANaaNEITHER LES",
  "S-THAN NOR GREATER-THANaiGREATER-THAN NOR LESS-THANaaPRECEDESaaSUCCEEDSaaPRECEDES OR EQUAL TOa",
  "aSUCCEEDS OR EQUAL TOaaPRECEDES OR EQUIVALENT TOaaSUCCEEDS OR EQUIVALENT TOaaDOES NOT PRECEDEa",
  "jSUCCEEDaaSUBSET OFacPERSET OFaaNOT A SUBSET OFaiPERSET OFaaSUBSET OF OR EQUAL TOacPERSET OF O",
  "R EQUAL TOaaNEITHER A SUBSET OF NOR EQUAL TOamPERSET OF NOR EQUAL TOaaSUBSET OF WITH NOT EQUAL",
  " TOacPERSET OF WITH NOT EQUAL TOaaMULTISETai MULTIPLICATIONajUNIONaaSQUARE IMAGE OFahORIGINAL ",
  "OFahIMAGE OF OR EQUAL TOahORIGINAL OF OR EQUAL TOahCAPaiUPaaCIRCLED PLUSaiMINUSaiTIMESaiDIVISI",
  "ON SLASHajOT OPERATORaiRING OPERATORaiASTERISK OPERATORaiEQUALSaiDASHaaSQUARED PLUSaiMINUSaiTI",
  "MESaiDOT OPERATORaaRIGHT TACKaaLEFT TACKaaDOWN TACKaaUP TACKaaASSERTIONaaMODELSaaTRUEaaFORCESa",
  "aTRIPLE VERTICAL BAR RIGHT TURNSTILEaaDOUBLE VERTICAL BAR DOUBLE RIGHT TURNSTILEacES NOT PROVE",
  "aaNOT TRUEaaDOES NOT FORCEaaNEGATED DOUBLE VERTICAL BAR DOUBLE RIGHT TURNSTILEaaPRECEDES UNDER",
  " RELATIONaaSUCCEEDS UNDER RELATIONaaNORMAL SUBGROUP OFaaCONTAINS AS NORMAL SUBGROUPaaNORMAL SU",
  "BGROUP OF OR EQUAL TOaaCONTAINS AS NORMAL SUBGROUP OR EQUAL TOaaORIGINAL OFaaIMAGE OFaaMULTIMA",
  "PaaHERMITIAN CONJUGATE MATRIXaaINTERCALATEaaXORaaNANDabORaaRIGHT ANGLE WITH ARCagTRIANGLEaaN-A",
  "RY LOGICAL ANDaoORagINTERSECTIONagUNIONaaDIAMOND OPERATORabOT OPERATORaaSTAR OPERATORaaDIVISIO",
  "N TIMESaaBOWTIEaaLEFT NORMAL FACTOR SEMIDIRECT PRODUCTaaRIGHT NORMAL FACTOR SEMIDIRECT PRODUCT",
  "aaLEFT SEMIDIRECT PRODUCTaaRIGHT SEMIDIRECT PRODUCTabEVERSED TILDE EQUALSaaCURLY LOGICAL ORaoA",
  "NDaaDOUBLE SUBSETajPERSETahINTERSECTIONahUNIONaaPITCHFORKaaEQUAL AND PARALLEL TOaaLESS-THAN WI",
  "TH DOTaaGREATER-THAN WITH DOTaaVERY MUCH LESS-THANakGREATER-THANaaLESS-THAN EQUAL TO OR GREATE",
  "R-THANaaGREATER-THAN EQUAL TO OR LESS-THANaaEQUAL TO OR LESS-THANamGREATER-THANamPRECEDESamSUC",
  "CEEDSaaDOES NOT PRECEDE OR EQUALajSUCCEED OR EQUALaaNOT SQUARE IMAGE OF OR EQUAL TOalORIGINAL ",
  "OF OR EQUAL TOaaSQUARE IMAGE OF OR NOT EQUAL TOahORIGINAL OF OR NOT EQUAL TOaaLESS-THAN BUT NO",
  "T EQUIVALENT TOaaGREATER-THAN BUT NOT EQUIVALENT TOaaPRECEDES BUT NOT EQUIVALENT TOaaSUCCEEDS ",
  "BUT NOT EQUIVALENT TOaaNOT NORMAL SUBGROUP OFaaDOES NOT CONTAIN AS NORMAL SUBGROUPaaNOT NORMAL",
  " SUBGROUP OF OR EQUAL TOaaDOES NOT CONTAIN AS NORMAL SUBGROUP OR EQUALaaVERTICAL ELLIPSISaaMID",
  "LINE HORIZONTAL ELLIPSISaaUP RIGHT DIAGONAL ELLIPSISaaDOWN RIGHT DIAGONAL ELLIPSISaaELEMENT OF",
  " WITH LONG HORIZONTAL STROKEaqVERTICAL BAR AT END OF HORIZONTAL STROKEaaSMALL ELEMENT OF WITH ",
  "VERTICAL BAR AT END OF HORIZONTAL STROKEaaELEMENT OF WITH DOT ABOVEaqOVERBARaaSMALL ELEMENT OF",
  " WITH OVERBARaaELEMENT OF WITH UNDERBARaqTWO HORIZONTAL STROKESaaCONTAINS WITH LONG HORIZONTAL",
  " STROKEaoVERTICAL BAR AT END OF HORIZONTAL STROKEaaSMALL CONTAINS WITH VERTICAL BAR AT END OF ",
  "HORIZONTAL STROKEaaCONTAINS WITH OVERBARaaSMALL CONTAINS WITH OVERBARaaZ NOTATION BAG MEMBERSH",
  "IPaaDIAMETER SIGNaaELECTRIC ARROWaaHOUSEaaUP ARROWHEADaaDOWN ARROWHEADaaPROJECTIVEabERSPECTIVE",
  "aaWAVY LINEaaLEFT CEILINGaaRIGHT CEILINGaaLEFT FLOORaaRIGHT FLOORaaBOTTOM RIGHT CROPahLEFT CRO",
  "PaaTOP RIGHT CROPaeLEFT CROPaaREVERSED NOT SIGNaaSQUARE LOZENGEaaARCaaSEGMENTacCTORaaTELEPHONE",
  " RECORDERaaPOSITION INDICATORaaVIEWDATA SQUAREaaPLACE OF INTEREST SIGNaaTURNED NOT SIGNaaWATCH",
  "aaHOURGLASSaaTOP LEFT CORNERaeRIGHT CORNERaaBOTTOM LEFT CORNERahRIGHT CORNERaaTOP HALF INTEGRA",
  "LaaBOTTOM HALF INTEGRALaaFROWNaaSMILEaaUP ARROWHEAD BETWEEN TWO HORIZONTAL BARSaaOPTION KEYaaE",
  "RASE TO THE RIGHTaaX IN A RECTANGLE BOXaaKEYBOARDaaLEFT-POINTING ANGLE BRACKETaaRIGHT-POINTING",
  " ANGLE BRACKETaaERASE TO THE LEFTaaBENZENE RINGaaCYLINDRICITYaaALL AROUND-PROFILEaaSYMMETRYaaT",
  "OTAL RUNOUTaaDIMENSION ORIGINaaCONICAL TAPERaaSLOPEaaCOUNTERBOREahSINKaaAPL FUNCTIONAL SYMBOL ",
  "I-BEAMawSQUISH QUADawQUAD EQUALbbDIVIDEbdAMONDbbJOTbbCIRCLEawCIRCLE STILEbdJOTawSLASH BARawBAC",
  "KSLASH BARawQUAD SLASHbbBACKSLASHbbLESS-THANbbGREATER-THANawLEFTWARDS VANEawRIGHTWARDS VANEawQ",
  "UAD LEFTWARDS ARROWbbRIGHTWARDS ARROWawCIRCLE BACKSLASHawDOWN TACK UNDERBARaxELTA STILEawQUAD ",
  "DOWN CARETbcELTAawDOWN TACK JOTawUPWARDS VANEawQUAD UPWARDS ARROWawUP TACK OVERBARawDEL STILEa",
  "wQUAD UP CARETbbDELawUP TACK JOTawDOWNWARDS VANEawQUAD DOWNWARDS ARROWayOTE UNDERBARawDELTA UN",
  "DERBARaxIAMOND UNDERBARawJOT UNDERBARawCIRCLE UNDERBARawUP SHOE JOTawQUOTE QUADawCIRCLE STARaw",
  "QUAD COLONawUP TACK DIAERESISawDEL DIAERESISawSTAR DIAERESISawJOT DIAERESISawCIRCLE DIAERESISa",
  "wDOWN SHOE STILEawLEFT SHOE STILEawTILDE DIAERESISawGREATER-THAN DIAERESISawCOMMA BARawDEL TIL",
  "DEawZILDEawSTILE TILDEaxEMICOLON UNDERBARawQUAD NOT EQUALbbQUESTIONawDOWN CARET TILDEawUP CARE",
  "T TILDEawIOTAawRHOawOMEGAawALPHA UNDERBARawEPSILON UNDERBARawIOTA UNDERBARawOMEGA UNDERBARawAL",
  "PHAaaNOT CHECK MARKaaRIGHT ANGLE WITH DOWNWARDS ZIGZAG ARROWaaSHOULDERED OPEN BOXaaBELL SYMBOL",
  "aaVERTICAL LINE WITH MIDDLE DOTaaINSERTION SYMBOLaaCONTINUOUS UNDERLINE SYMBOLaaDISCONTINUOUS ",
  "UNDERLINE SYMBOLaaEMPHASIS SYMBOLaaCOMPOSITION SYMBOLaaWHITE SQUARE WITH CENTRE VERTICAL LINEa",
  "aENTER SYMBOLaaALTERNATIVE KEY SYMBOLaaHELM SYMBOLaaCIRCLED HORIZONTAL BAR WITH NOTCHaiTRIANGL",
  "E DOWNaaBROKEN CIRCLE WITH NORTHWEST ARROWaaUNDO SYMBOLaaMONOSTABLE SYMBOLaaHYSTERESIS SYMBOLa",
  "aOPEN-CIRCUIT-OUTPUT H-TYPE SYMBOLauL-TYPE SYMBOLaaPASSIVE-PULL-DOWN-OUTPUT SYMBOLanUP-OUTPUT ",
  "SYMBOLaaDIRECT CURRENT SYMBOL FORM TWOaaSOFTWARE-FUNCTION SYMBOLaaAPL FUNCTIONAL SYMBOL QUADaa",
  "DECIMAL SEPARATOR KEY SYMBOLaaPREVIOUS PAGEaaNEXT PAGEaaPRINT SCREEN SYMBOLaaCLEAR SCREEN SYMB",
  "OLaaLEFT PARENTHESIS UPPER HOOKarEXTENSIONarLOWER HOOKaaRIGHT PARENTHESIS UPPER HOOKasEXTENSIO",
  "NasLOWER HOOKaaLEFT SQUARE BRACKET UPPER CORNERauEXTENSIONauLOWER CORNERaaRIGHT SQUARE BRACKET",
  " UPPER CORNERavEXTENSIONavLOWER CORNERaaLEFT CURLY BRACKET UPPER HOOKatMIDDLE PIECEatLOWER HOO",
  "KaaCURLY BRACKET EXTENSIONaaRIGHT CURLY BRACKET UPPER HOOKauMIDDLE PIECEauLOWER HOOKaaINTEGRAL",
  " EXTENSIONaaHORIZONTAL LINE EXTENSIONaaUPPER LEFT OR LOWER RIGHT CURLY BRACKET SECTIONagRIGHT ",
  "OR LOWER LEFT CURLY BRACKET SECTIONaaSUMMATION TOPakBOTTOMaaTOP SQUARE BRACKETaaBOTTOM SQUARE ",
  "BRACKETav OVER TOP SQUARE BRACKETaaRADICAL SYMBOL BOTTOMaaLEFT VERTICAL BOX LINEaaRIGHT VERTIC",
  "AL BOX LINEaaHORIZONTAL SCAN LINE-1av3av7av9aaDENTISTRY SYMBOL LIGHT VERTICAL AND TOP RIGHTbkB",
  "OTTOM RIGHTbgWITH CIRCLEaxDOWN AND HORIZONTAL WITH CIRCLEaxUP AND HORIZONTAL WITH CIRCLEaxVERT",
  "ICAL WITH TRIANGLEaxDOWN AND HORIZONTAL WITH TRIANGLEaxUP AND HORIZONTAL WITH TRIANGLEaxVERTIC",
  "AL AND WAVEaxDOWN AND HORIZONTAL WITH WAVEaxUP AND HORIZONTAL WITH WAVEaxDOWN AND HORIZONTALax",
  "UP AND HORIZONTALaxVERTICAL AND TOP LEFTbkBOTTOM LEFTaaSQUARE FOOTaaRETURN SYMBOLaaEJECT SYMBO",
  "LaaVERTICAL LINE EXTENSIONaaMETRICAL BREVEajLONG OVER SHORTajSHORT OVER LONGajLONG OVER TWO SH",
  "ORTSajTWO SHORTS OVER LONGauJOINEDakRISEMEakETRASEMEajPENTASEMEaaEARTH GROUNDaaFUSEaaTOP PAREN",
  "THESISaaBOTTOM PARENTHESISaaTOP CURLY BRACKETaaBOTTOM CURLY BRACKETaaTOP TORTOISE SHELL BRACKE",
  "TaaBOTTOM TORTOISE SHELL BRACKETaaWHITE TRAPEZIUMaaBENZENE RING WITH CIRCLEaaSTRAIGHTNESSaaFLA",
  "TNESSaaAC CURRENTaaELECTRICAL INTERSECTIONaaDECIMAL EXPONENT SYMBOLaaBLACK RIGHT-POINTING DOUB",
  "LE TRIANGLEagLEFT-POINTING DOUBLE TRIANGLEagUP-POINTING DOUBLE TRIANGLEagDOWN-POINTING DOUBLE ",
  "TRIANGLEagRIGHT-POINTING DOUBLE TRIANGLE WITH VERTICAL BARagLEFT-POINTING DOUBLE TRIANGLE WITH",
  " VERTICAL BARagRIGHT-POINTING TRIANGLE WITH DOUBLE VERTICAL BARaaALARM CLOCKaaSTOPWATCHaaTIMER",
  " CLOCKaaHOURGLASS WITH FLOWING SANDaaBLACK MEDIUM LEFT-POINTING TRIANGLEanRIGHT-POINTING TRIAN",
  "GLEanUP-POINTING TRIANGLEanDOWN-POINTING TRIANGLEaaDOUBLE VERTICAL BARaaBLACK SQUARE FOR STOPa",
  "gCIRCLE FOR RECORDaaPOWER SYMBOLagON-OFF SYMBOLai SYMBOLagSLEEP SYMBOLaaOBSERVER EYE SYMBOLaaS",
  "YMBOL FOR NULLalSTART OF HEADINGauTEXTalEND OF TEXTatRANSMISSIONanQUIRYalACKNOWLEDGEalBELLamAC",
  "KSPACEalHORIZONTAL TABULATIONalLINE FEEDalVERTICAL TABULATIONalFORM FEEDalCARRIAGE RETURNalSHI",
  "FT OUTarINalDATA LINK ESCAPEamEVICE CONTROL ONEbaTWObbHREEbaFOURalNEGATIVE ACKNOWLEDGEalSYNCHR",
  "ONOUS IDLEalEND OF TRANSMISSION BLOCKalCANCELalEND OF MEDIUMalSUBSTITUTEalESCAPEalFILE SEPARAT",
  "ORalGROUP SEPARATORalRECORD SEPARATORalUNIT SEPARATORalSPACEalDELETEaaBLANK SYMBOLaaOPEN BOXaa",
  "SYMBOL FOR NEWLINEalDELETE FORM TWOalSUBSTITUTE FORM TWO@02440aaOCR HOOKaeCHAIRaeFORKaeINVERTE",
  "D FORKaeBELT BUCKLEafOW TIEafRANCH BANK IDENTIFICATIONaeAMOUNT OF CHECKaeDASHaeCUSTOMER ACCOUN",
  "T NUMBERaeDOUBLE BACKSLASH@02460aaCIRCLED DIGIT ONEaoTWOapHREEaoFOURapIVEaoSIXapEVENaoEIGHTaoN",
  "INEaiNUMBER TENapELEVENapTWELVEaqHIRTEENapFOURTEENaqIFTEENapSIXTEENaqEVENTEENapEIGHTEENapNINET",
  "EENapTWENTYaaPARENTHESIZED DIGIT ONEauTWOavHREEauFOURavIVEauSIXavEVENauEIGHTauNINEaoNUMBER TEN",
  "avELEVENavTWELVEawHIRTEENavFOURTEENawIFTEENavSIXTEENawEVENTEENavEIGHTEENavNINETEENavTWENTYaaDI",
  "GIT ONE FULL STOPagTWO FULL STOPahHREE FULL STOPagFOUR FULL STOPahIVE FULL STOPagSIX FULL STOP",
  "ahEVEN FULL STOPagEIGHT FULL STOPagNINE FULL STOPaaNUMBER TEN FULL STOPahELEVEN FULL STOPahTWE",
  "LVE FULL STOPaiHIRTEEN FULL STOPahFOURTEEN FULL STOPaiIFTEEN FULL STOPahSIXTEEN FULL STOPaiEVE",
  "NTEEN FULL STOPahEIGHTEEN FULL STOPahNINETEEN FULL STOPahTWENTY FULL STOPaaPARENTHESIZED LATIN",
  " SMALL LETTER AbhBbhCbhDbhEbhFbhGbhHbhIbhJbhKbhLbhMbhNbhObhPbhQbhRbhSbhTbhUbhVbhWbhXbhYbhZaaCI",
  "RCLED LATIN CAPITAL LETTER AbdBbdCbdDbdEbdFbdGbdHbdIbdJbdKbdLbdMbdNbdObdPbdQbdRbdSbdTbdUbdVbdW",
  "bdXbdYbdZaoSMALL LETTER AbbBbbCbbDbbEbbFbbGbbHbbIbbJbbKbbLbbMbbNbbObbPbbQbbRbbSbbTbbUbbVbbWbbX",
  "bbYbbZaiDIGIT ZEROaaNEGATIVE CIRCLED NUMBER ELEVENayTWELVEazHIRTEENayFOURTEENazIFTEENaySIXTEEN",
  "azEVENTEENayEIGHTEENayNINETEENayTWENTYaaDOUBLE CIRCLED DIGIT ONEavTWOawHREEavFOURawIVEavSIXawE",
  "VENavEIGHTavNINEapNUMBER TENaaNEGATIVE CIRCLED DIGIT ZEROaaBOX DRAWINGS LIGHT HORIZONTALanHEAV",
  "Y HORIZONTALanLIGHT VERTICALanHEAVY VERTICALanLIGHT TRIPLE DASH HORIZONTALanHEAVY TRIPLE DASH ",
  "HORIZONTALanLIGHT TRIPLE DASH VERTICALanHEAVY TRIPLE DASH VERTICALanLIGHT QUADRUPLE DASH HORIZ",
  "ONTALanHEAVY QUADRUPLE DASH HORIZONTALanLIGHT QUADRUPLE DASH VERTICALanHEAVY QUADRUPLE DASH VE",
  "RTICALanLIGHT DOWN AND RIGHTanDOWN LIGHT AND RIGHT HEAVYasHEAVY AND RIGHT LIGHTanHEAVY DOWN AN",
  "D RIGHTanLIGHT DOWN AND LEFTanDOWN LIGHT AND LEFT HEAVYasHEAVY AND LEFT LIGHTanHEAVY DOWN AND ",
  "LEFTanLIGHT UP AND RIGHTanUP LIGHT AND RIGHT HEAVYaqHEAVY AND RIGHT LIGHTanHEAVY UP AND RIGHTa",
  "nLIGHT UP AND LEFTanUP LIGHT AND LEFT HEAVYaqHEAVY AND LEFT LIGHTanHEAVY UP AND LEFTanLIGHT VE",
  "RTICAL AND RIGHTanVERTICAL LIGHT AND RIGHT HEAVYanUP HEAVY AND RIGHT DOWN LIGHTanDOWN HEAVY AN",
  "D RIGHT UP LIGHTanVERTICAL HEAVY AND RIGHT LIGHTanDOWN LIGHT AND RIGHT UP HEAVYanUP LIGHT AND ",
  "RIGHT DOWN HEAVYanHEAVY VERTICAL AND RIGHTanLIGHT VERTICAL AND LEFTanVERTICAL LIGHT AND LEFT H",
  "EAVYanUP HEAVY AND LEFT DOWN LIGHTanDOWN HEAVY AND LEFT UP LIGHTanVERTICAL HEAVY AND LEFT LIGH",
  "TanDOWN LIGHT AND LEFT UP HEAVYanUP LIGHT AND LEFT DOWN HEAVYanHEAVY VERTICAL AND LEFTanLIGHT ",
  "DOWN AND HORIZONTALaoEFT HEAVY AND RIGHT DOWN LIGHTanRIGHT HEAVY AND LEFT DOWN LIGHTanDOWN LIG",
  "HT AND HORIZONTAL HEAVYasHEAVY AND HORIZONTAL LIGHTanRIGHT LIGHT AND LEFT DOWN HEAVYanLEFT LIG",
  "HT AND RIGHT DOWN HEAVYanHEAVY DOWN AND HORIZONTALanLIGHT UP AND HORIZONTALaoEFT HEAVY AND RIG",
  "HT UP LIGHTanRIGHT HEAVY AND LEFT UP LIGHTanUP LIGHT AND HORIZONTAL HEAVYaqHEAVY AND HORIZONTA",
  "L LIGHTanRIGHT LIGHT AND LEFT UP HEAVYanLEFT LIGHT AND RIGHT UP HEAVYanHEAVY UP AND HORIZONTAL",
  "anLIGHT VERTICAL AND HORIZONTALaoEFT HEAVY AND RIGHT VERTICAL LIGHTanRIGHT HEAVY AND LEFT VERT",
  "ICAL LIGHTanVERTICAL LIGHT AND HORIZONTAL HEAVYanUP HEAVY AND DOWN HORIZONTAL LIGHTanDOWN HEAV",
  "Y AND UP HORIZONTAL LIGHTanVERTICAL HEAVY AND HORIZONTAL LIGHTanLEFT UP HEAVY AND RIGHT DOWN L",
  "IGHTanRIGHT UP HEAVY AND LEFT DOWN LIGHTanLEFT DOWN HEAVY AND RIGHT UP LIGHTanRIGHT DOWN HEAVY",
  " AND LEFT UP LIGHTanDOWN LIGHT AND UP HORIZONTAL HEAVYanUP LIGHT AND DOWN HORIZONTAL HEAVYanRI",
  "GHT LIGHT AND LEFT VERTICAL HEAVYanLEFT LIGHT AND RIGHT VERTICAL HEAVYanHEAVY VERTICAL AND HOR",
  "IZONTALanLIGHT DOUBLE DASH HORIZONTALanHEAVY DOUBLE DASH HORIZONTALanLIGHT DOUBLE DASH VERTICA",
  "LanHEAVY DOUBLE DASH VERTICALanDOUBLE HORIZONTALauVERTICALapWN SINGLE AND RIGHT DOUBLEasDOUBLE",
  " AND RIGHT SINGLEapUBLE DOWN AND RIGHTapWN SINGLE AND LEFT DOUBLEasDOUBLE AND LEFT SINGLEapUBL",
  "E DOWN AND LEFTanUP SINGLE AND RIGHT DOUBLEaqDOUBLE AND RIGHT SINGLEanDOUBLE UP AND RIGHTanUP ",
  "SINGLE AND LEFT DOUBLEaqDOUBLE AND LEFT SINGLEanDOUBLE UP AND LEFTanVERTICAL SINGLE AND RIGHT ",
  "DOUBLEawDOUBLE AND RIGHT SINGLEanDOUBLE VERTICAL AND RIGHTanVERTICAL SINGLE AND LEFT DOUBLEawD",
  "OUBLE AND LEFT SINGLEanDOUBLE VERTICAL AND LEFTapWN SINGLE AND HORIZONTAL DOUBLEasDOUBLE AND H",
  "ORIZONTAL SINGLEapUBLE DOWN AND HORIZONTALanUP SINGLE AND HORIZONTAL DOUBLEaqDOUBLE AND HORIZO",
  "NTAL SINGLEanDOUBLE UP AND HORIZONTALanVERTICAL SINGLE AND HORIZONTAL DOUBLEawDOUBLE AND HORIZ",
  "ONTAL SINGLEanDOUBLE VERTICAL AND HORIZONTALanLIGHT ARC DOWN AND RIGHTbgLEFTaxUP AND LEFTbeRIG",
  "HTatDIAGONAL UPPER RIGHT TO LOWER LEFTbiLEFT TO LOWER RIGHTbcCROSSatLEFTatUPatRIGHTatDOWNanHEA",
  "VY LEFTatUPatRIGHTatDOWNanLIGHT LEFT AND HEAVY RIGHTatUP AND HEAVY DOWNanHEAVY LEFT AND LIGHT ",
  "RIGHTatUP AND LIGHT DOWNaaUPPER HALF BLOCKaaLOWER ONE EIGHTH BLOCKakQUARTER BLOCKagTHREE EIGHT",
  "HS BLOCKagHALF BLOCKagFIVE EIGHTHS BLOCKagTHREE QUARTERS BLOCKagSEVEN EIGHTHS BLOCKaaFULL BLOC",
  "KaaLEFT SEVEN EIGHTHS BLOCKafTHREE QUARTERS BLOCKafFIVE EIGHTHS BLOCKafHALF BLOCKafTHREE EIGHT",
  "HS BLOCKafONE QUARTER BLOCKajEIGHTH BLOCKaaRIGHT HALF BLOCKaaLIGHT SHADEaaMEDIUM SHADEaaDARK S",
  "HADEaaUPPER ONE EIGHTH BLOCKaaRIGHT ONE EIGHTH BLOCKaaQUADRANT LOWER LEFTapRIGHTajUPPER LEFTat",
  " AND LOWER LEFT AND LOWER RIGHTbeRIGHTayUPPER RIGHT AND LOWER LEFTbuRIGHTapRIGHTau AND LOWER L",
  "EFTbj AND LOWER RIGHTaaBLACK SQUAREaaWHITE SQUAREam WITH ROUNDED CORNERSanCONTAINING BLACK SMA",
  "LL SQUAREaaSQUARE WITH HORIZONTAL FILLamVERTICAL FILLamORTHOGONAL CROSSHATCH FILLamUPPER LEFT ",
  "TO LOWER RIGHT FILLasRIGHT TO LOWER LEFT FILLamDIAGONAL CROSSHATCH FILLaaBLACK SMALL SQUAREaaW",
  "HITE SMALL SQUAREaaBLACK RECTANGLEaaWHITE RECTANGLEaaBLACK VERTICAL RECTANGLEaaWHITE VERTICAL ",
  "RECTANGLEaaBLACK PARALLELOGRAMaaWHITE PARALLELOGRAMaaBLACK UP-POINTING TRIANGLEaaWHITE UP-POIN",
  "TING TRIANGLEaaBLACK UP-POINTING SMALL TRIANGLEaaWHITE UP-POINTING SMALL TRIANGLEaaBLACK RIGHT",
  "-POINTING TRIANGLEaaWHITE RIGHT-POINTING TRIANGLEaaBLACK RIGHT-POINTING SMALL TRIANGLEaaWHITE ",
  "RIGHT-POINTING SMALL TRIANGLEaaBLACK RIGHT-POINTING POINTERaaWHITE RIGHT-POINTING POINTERaaBLA",
  "CK DOWN-POINTING TRIANGLEaaWHITE DOWN-POINTING TRIANGLEaaBLACK DOWN-POINTING SMALL TRIANGLEaaW",
  "HITE DOWN-POINTING SMALL TRIANGLEaaBLACK LEFT-POINTING TRIANGLEaaWHITE LEFT-POINTING TRIANGLEa",
  "aBLACK LEFT-POINTING SMALL TRIANGLEaaWHITE LEFT-POINTING SMALL TRIANGLEaaBLACK LEFT-POINTING P",
  "OINTERaaWHITE LEFT-POINTING POINTERaaBLACK DIAMONDaaWHITE DIAMONDan CONTAINING BLACK SMALL DIA",
  "MONDaaFISHEYEaaLOZENGEaaWHITE CIRCLEaaDOTTED CIRCLEaaCIRCLE WITH VERTICAL FILLaaBULLSEYEabLACK",
  " CIRCLEaaCIRCLE WITH LEFT HALF BLACKamRIGHT HALF BLACKamLOWER HALF BLACKamUPPER HALF BLACKasRI",
  "GHT QUADRANT BLACKamALL BUT UPPER LEFT QUADRANT BLACKaaLEFT HALF BLACK CIRCLEaaRIGHT HALF BLAC",
  "K CIRCLEaaINVERSE BULLETaiWHITE CIRCLEaaUPPER HALF INVERSE WHITE CIRCLEaaLOWER HALF INVERSE WH",
  "ITE CIRCLEaaUPPER LEFT QUADRANT CIRCULAR ARCagRIGHT QUADRANT CIRCULAR ARCaaLOWER RIGHT QUADRAN",
  "T CIRCULAR ARCagLEFT QUADRANT CIRCULAR ARCaaUPPER HALF CIRCLEaaLOWER HALF CIRCLEaaBLACK LOWER ",
  "RIGHT TRIANGLEamLEFT TRIANGLEagUPPER LEFT TRIANGLEamRIGHT TRIANGLEaaWHITE BULLETaaSQUARE WITH ",
  "LEFT HALF BLACKamRIGHT HALF BLACKamUPPER LEFT DIAGONAL HALF BLACKamLOWER RIGHT DIAGONAL HALF B",
  "LACKaaWHITE SQUARE WITH VERTICAL BISECTING LINEagUP-POINTING TRIANGLE WITH DOTaaUP-POINTING TR",
  "IANGLE WITH LEFT HALF BLACKbaRIGHT HALF BLACKaaLARGE CIRCLEaaWHITE SQUARE WITH UPPER LEFT QUAD",
  "RANTasLOWER LEFT QUADRANTayRIGHT QUADRANTasUPPER RIGHT QUADRANTagCIRCLE WITH UPPER LEFT QUADRA",
  "NTasLOWER LEFT QUADRANTayRIGHT QUADRANTasUPPER RIGHT QUADRANTaaUPPER LEFT TRIANGLEagRIGHT TRIA",
  "NGLEaaLOWER LEFT TRIANGLEaaWHITE MEDIUM SQUAREaaBLACK MEDIUM SQUAREaaWHITE MEDIUM SMALL SQUARE",
  "aaBLACK MEDIUM SMALL SQUAREaaLOWER RIGHT TRIANGLEaaBLACK SUN WITH RAYSaaCLOUDaaUMBRELLAaaSNOWM",
  "ANaaCOMETaaBLACK STARaaWHITE STARaaLIGHTNINGaaTHUNDERSTORMaaSUNaaASCENDING NODEaaDESCENDING NO",
  "DEaaCONJUNCTIONaaOPPOSITIONaaBLACK TELEPHONEaaWHITE TELEPHONEaaBALLOT BOXak WITH CHECKaqXaaSAL",
  "TIREaaUMBRELLA WITH RAIN DROPSaaHOT BEVERAGEaaWHITE SHOGI PIECEaaBLACK SHOGI PIECEaaSHAMROCKaa",
  "REVERSED ROTATED FLORAL HEART BULLETaaBLACK LEFT POINTING INDEXagRIGHT POINTING INDEXaaWHITE L",
  "EFT POINTING INDEXagUP POINTING INDEXagRIGHT POINTING INDEXagDOWN POINTING INDEXaaSKULL AND CR",
  "OSSBONESaaCAUTION SIGNaaRADIOACTIVE SIGNaaBIOHAZARD SIGNaaCADUCEUSaaANKHaaORTHODOX CROSSaaCHI ",
  "RHOabROSS OF LORRAINEajJERUSALEMaaSTAR AND CRESCENTaaFARSI SYMBOLaaADI SHAKTIaaHAMMER AND SICK",
  "LEaaPEACE SYMBOLaaYIN YANGaaTRIGRAM FOR HEAVENamLAKEamFIREamTHUNDERamWINDanATERamMOUNTAINamEAR",
  "THaaWHEEL OF DHARMAacITE FROWNING FACEagSMILING FACEaaBLACK SMILING FACEaaWHITE SUN WITH RAYSa",
  "aFIRST QUARTER MOONaaLAST QUARTER MOONaaMERCURYaaFEMALE SIGNaaEARTHaaMALE SIGNaaJUPITERaaSATUR",
  "NaaURANUSaaNEPTUNEaaPLUTOaaARIESaaTAURUSaaGEMINIaaCANCERaaLEOaaVIRGOaaLIBRAaaSCORPIUSabAGITTAR",
  "IUSaaCAPRICORNaaAQUARIUSaaPISCESaaWHITE CHESS KINGamQUEENamROOKamBISHOPamKNIGHTamPAWNaaBLACK C",
  "HESS KINGamQUEENamROOKamBISHOPamKNIGHTamPAWNagSPADE SUITaaWHITE HEART SUITagDIAMOND SUITaaBLAC",
  "K CLUB SUITaaWHITE SPADE SUITaaBLACK HEART SUITagDIAMOND SUITaaWHITE CLUB SUITaaHOT SPRINGSaaQ",
  "UARTER NOTEaaEIGHTH NOTEaaBEAMED EIGHTH NOTESahSIXTEENTH NOTESaaMUSIC FLAT SIGNagNATURAL SIGNa",
  "gSHARP SIGNaaWEST SYRIAC CROSSaaEAST SYRIAC CROSSaaUNIVERSAL RECYCLING SYMBOLaaRECYCLING SYMBO",
  "L FOR TYPE-1 PLASTICSba2 PLASTICSba3 PLASTICSba4 PLASTICSba5 PLASTICSba6 PLASTICSba7 PLASTICSa",
  "vGENERIC MATERIALSaaBLACK UNIVERSAL RECYCLING SYMBOLaaRECYCLED PAPER SYMBOLaaPARTIALLY-RECYCLE",
  "D PAPER SYMBOLabERMANENT PAPER SIGNaaWHEELCHAIR SYMBOLaaDIE FACE-1aj2aj3aj4aj5aj6aaWHITE CIRCL",
  "E WITH DOT RIGHTasTWO DOTSaaBLACK CIRCLE WITH WHITE DOT RIGHTasTWO WHITE DOTSaaMONOGRAM FOR YA",
  "NGaoINaaDIGRAM FOR GREATER YANGalLESSER YINatANGalGREATER YINaaWHITE FLAGaaBLACK FLAGaaHAMMER ",
  "AND PICKaaANCHORaaCROSSED SWORDSaaSTAFF OF AESCULAPIUSabCALESaaALEMBICaaFLOWERaaGEARaaSTAFF OF",
  " HERMESaaATOM SYMBOLaaFLEUR-DE-LISaaOUTLINED WHITE STARaaTHREE LINES CONVERGING RIGHTaxLEFTaaW",
  "ARNING SIGNaaHIGH VOLTAGE SIGNaaDOUBLED FEMALE SIGNaiMALE SIGNaaINTERLOCKED FEMALE AND MALE SI",
  "GNaaMALE AND FEMALE SIGNafWITH STROKE SIGNarAND MALE AND FEMALE SIGNaaVERTICAL MALE WITH STROK",
  "E SIGNaaHORIZONTAL MALE WITH STROKE SIGNaaMEDIUM WHITE CIRCLEahBLACK CIRCLEahSMALL WHITE CIRCL",
  "EabARRIAGE SYMBOLaaDIVORCE SYMBOLaaUNMARRIED PARTNERSHIP SYMBOLaaCOFFINaaFUNERAL URNaaNEUTERaa",
  "CERESaaPALLASaaJUNOaaVESTAaaCHIRONaaBLACK MOON LILITHaaSEXTILEacMISEXTILEaaQUINCUNXaaSESQUIQUA",
  "DRATEabOCCER BALLaaBASEBALLaaSQUARED KEYaaWHITE DRAUGHTS MANapKINGaaBLACK DRAUGHTS MANapKINGaa",
  "SNOWMAN WITHOUT SNOWabUN BEHIND CLOUDaaRAINaaBLACK SNOWMANaaTHUNDER CLOUD AND RAINabURNED WHIT",
  "E SHOGI PIECEahBLACK SHOGI PIECEaaWHITE DIAMOND IN SQUAREaaCROSSING LANESaaDISABLED CARaaOPHIU",
  "CHUSaaPICKaaCAR SLIDINGaaHELMET WITH WHITE CROSSaaCIRCLED CROSSING LANESabHAINSaaNO ENTRYaaALT",
  "ERNATE ONE-WAY LEFT WAY TRAFFICaaBLACK TWO-WAY LEFT WAY TRAFFICaaWHITE TWO-WAY LEFT WAY TRAFFI",
  "CaaBLACK LEFT LANE MERGEaaWHITE LEFT LANE MERGEaaDRIVE SLOW SIGNaaHEAVY WHITE DOWN-POINTING TR",
  "IANGLEaaLEFT CLOSED ENTRYaaSQUARED SALTIREaaFALLING DIAGONAL IN WHITE CIRCLE IN BLACK SQUAREaa",
  "BLACK TRUCKaaRESTRICTED LEFT ENTRY-1aw2aaASTRONOMICAL SYMBOL FOR URANUSaaHEAVY CIRCLE WITH STR",
  "OKE AND TWO DOTS ABOVEaaPENTAGRAMaaRIGHT-HANDED INTERLACED PENTAGRAMaaLEFT-HANDED INTERLACED P",
  "ENTAGRAMaaINVERTED PENTAGRAMaaBLACK CROSS ON SHIELDaaSHINTO SHRINEaaCHURCHabASTLEaaHISTORIC SI",
  "TEaaGEAR WITHOUT HUBaj HANDLESaaMAP SYMBOL FOR LIGHTHOUSEabOUNTAINaaUMBRELLA ON GROUNDaaFOUNTA",
  "INabLAG IN HOLEabERRYaaSAILBOATabQUARE FOUR CORNERSabKIERaaICE SKATEaaPERSON WITH BALLaaTENTaa",
  "JAPANESE BANK SYMBOLaaHEADSTONE GRAVEYARD SYMBOLaaFUEL PUMPaaCUP ON BLACK SQUAREaaWHITE FLAG W",
  "ITH HORIZONTAL MIDDLE BLACK STRIPEaaBLACK SAFETY SCISSORSaaUPPER BLADE SCISSORSaaBLACK SCISSOR",
  "SaaLOWER BLADE SCISSORSaaWHITE SCISSORSagHEAVY CHECK MARKaaTELEPHONE LOCATION SIGNabAPE DRIVEa",
  "aAIRPLANEaaENVELOPEaaRAISED FISTahHANDaaVICTORY HANDaaWRITING HANDaaLOWER RIGHT PENCILaaPENCIL",
  "aaUPPER RIGHT PENCILaaWHITE NIBaaBLACK NIBaaCHECK MARKaaHEAVY CHECK MARKaaMULTIPLICATION XaaHE",
  "AVY MULTIPLICATION XaaBALLOT XaaHEAVY BALLOT XaaOUTLINED GREEK CROSSaaHEAVY GREEK CROSSaaOPEN ",
  "CENTRE CROSSaaHEAVY OPEN CENTRE CROSSaaLATIN CROSSaaSHADOWED WHITE LATIN CROSSaaOUTLINED LATIN",
  " CROSSaaMALTESE CROSSaaSTAR OF DAVIDaaFOUR TEARDROP-SPOKED ASTERISKafBALLOON-SPOKED ASTERISKaa",
  "HEAVY FOUR BALLOON-SPOKED ASTERISKaaFOUR CLUB-SPOKED ASTERISKaaBLACK FOUR POINTED STARaaWHITE ",
  "FOUR POINTED STARaaSPARKLESabTRESS OUTLINED WHITE STARaaCIRCLED WHITE STARaaOPEN CENTRE BLACK ",
  "STARaaBLACK CENTRE WHITE STARaaOUTLINED BLACK STARaaHEAVY OUTLINED BLACK STARaaPINWHEEL STARaa",
  "SHADOWED WHITE STARaaHEAVY ASTERISKaaOPEN CENTRE ASTERISKaaEIGHT SPOKED ASTERISKagPOINTED BLAC",
  "K STARaoPINWHEEL STARaaSIX POINTED BLACK STARaaEIGHT POINTED RECTILINEAR BLACK STARaaHEAVY EIG",
  "HT POINTED RECTILINEAR BLACK STARaaTWELVE POINTED BLACK STARaaSIXTEEN POINTED ASTERISKaaTEARDR",
  "OP-SPOKED ASTERISKaaOPEN CENTRE TEARDROP-SPOKED ASTERISKaaHEAVY TEARDROP-SPOKED ASTERISKaaSIX ",
  "PETALLED BLACK AND WHITE FLORETTEaaBLACK FLORETTEaaWHITE FLORETTEaaEIGHT PETALLED OUTLINED BLA",
  "CK FLORETTEaaCIRCLED OPEN CENTRE EIGHT POINTED STARaaHEAVY TEARDROP-SPOKED PINWHEEL ASTERISKaa",
  "SNOWFLAKEaaTIGHT TRIFOLIATE SNOWFLAKEaaHEAVY CHEVRON SNOWFLAKEaaSPARKLEaaHEAVY SPARKLEaaBALLOO",
  "N-SPOKED ASTERISKaaEIGHT TEARDROP-SPOKED PROPELLER ASTERISKaaHEAVY EIGHT TEARDROP-SPOKED PROPE",
  "LLER ASTERISKaaCROSS MARKaaSHADOWED WHITE CIRCLEaaNEGATIVE SQUARED CROSS MARKaaLOWER RIGHT DRO",
  "P-SHADOWED WHITE SQUAREaaUPPER RIGHT DROP-SHADOWED WHITE SQUAREaaLOWER RIGHT SHADOWED WHITE SQ",
  "UAREaaUPPER RIGHT SHADOWED WHITE SQUAREaaBLACK QUESTION MARK ORNAMENTaaWHITE QUESTION MARK ORN",
  "AMENTagEXCLAMATION MARK ORNAMENTaaBLACK DIAMOND MINUS WHITE XaaHEAVY EXCLAMATION MARK SYMBOLaa",
  "LIGHT VERTICAL BARaaMEDIUM VERTICAL BARaaHEAVY VERTICAL BARagSINGLE TURNED COMMA QUOTATION MAR",
  "K ORNAMENTanCOMMA QUOTATION MARK ORNAMENTagDOUBLE TURNED COMMA QUOTATION MARK ORNAMENTanCOMMA ",
  "QUOTATION MARK ORNAMENTagLOW SINGLE COMMA QUOTATION MARK ORNAMENTakDOUBLE COMMA QUOTATION MARK",
  " ORNAMENTaaCURVED STEM PARAGRAPH SIGN ORNAMENTaaHEAVY EXCLAMATION MARK ORNAMENTagHEART EXCLAMA",
  "TION MARK ORNAMENTagBLACK HEARTaaROTATED HEAVY BLACK HEART BULLETaaFLORAL HEARTaaROTATED FLORA",
  "L HEART BULLETaaMEDIUM LEFT PARENTHESIS ORNAMENTahRIGHT PARENTHESIS ORNAMENTahFLATTENED LEFT P",
  "ARENTHESIS ORNAMENTarRIGHT PARENTHESIS ORNAMENTahLEFT-POINTING ANGLE BRACKET ORNAMENTahRIGHT-P",
  "OINTING ANGLE BRACKET ORNAMENTaaHEAVY LEFT-POINTING ANGLE QUOTATION MARK ORNAMENTagRIGHT-POINT",
  "ING ANGLE QUOTATION MARK ORNAMENTagLEFT-POINTING ANGLE BRACKET ORNAMENTagRIGHT-POINTING ANGLE ",
  "BRACKET ORNAMENTaaLIGHT LEFT TORTOISE SHELL BRACKET ORNAMENTagRIGHT TORTOISE SHELL BRACKET ORN",
  "AMENTaaMEDIUM LEFT CURLY BRACKET ORNAMENTahRIGHT CURLY BRACKET ORNAMENTaaDINGBAT NEGATIVE CIRC",
  "LED DIGIT ONEbfTWObgHREEbfFOURbgIVEbfSIXbgEVENbfEIGHTbfNINEazNUMBER TENaiCIRCLED SANS-SERIF DI",
  "GIT ONEbhTWObiHREEbhFOURbiIVEbhSIXbiEVENbhEIGHTbhNINEbbNUMBER TENaiNEGATIVE CIRCLED SANS-SERIF",
  " DIGIT ONEbqTWObrHREEbqFOURbrIVEbqSIXbrEVENbqEIGHTbqNINEbkNUMBER TENaaHEAVY WIDE-HEADED RIGHTW",
  "ARDS ARROWagPLUS SIGNagMINUS SIGNagDIVISION SIGNagSOUTH EAST ARROWagRIGHTWARDS ARROWagNORTH EA",
  "ST ARROWaaDRAFTING POINT RIGHTWARDS ARROWaaHEAVY ROUND-TIPPED RIGHTWARDS ARROWaaTRIANGLE-HEADE",
  "D RIGHTWARDS ARROWaaHEAVY TRIANGLE-HEADED RIGHTWARDS ARROWaaDASHED TRIANGLE-HEADED RIGHTWARDS ",
  "ARROWaaHEAVY DASHED TRIANGLE-HEADED RIGHTWARDS ARROWaaBLACK RIGHTWARDS ARROWaaTHREE-D TOP-LIGH",
  "TED RIGHTWARDS ARROWHEADaiBOTTOM-LIGHTED RIGHTWARDS ARROWHEADaaBLACK RIGHTWARDS ARROWHEADaaHEA",
  "VY BLACK CURVED DOWNWARDS AND RIGHTWARDS ARROWatUPWARDS AND RIGHTWARDS ARROWaaSQUAT BLACK RIGH",
  "TWARDS ARROWaaHEAVY CONCAVE-POINTED BLACK RIGHTWARDS ARROWaaRIGHT-SHADED WHITE RIGHTWARDS ARRO",
  "WaaLEFT-SHADED WHITE RIGHTWARDS ARROWaaBACK-TILTED SHADOWED WHITE RIGHTWARDS ARROWaaFRONT-TILT",
  "ED SHADOWED WHITE RIGHTWARDS ARROWaaHEAVY LOWER RIGHT-SHADOWED WHITE RIGHTWARDS ARROWagUPPER R",
  "IGHT-SHADOWED WHITE RIGHTWARDS ARROWaaNOTCHED LOWER RIGHT-SHADOWED WHITE RIGHTWARDS ARROWaaCUR",
  "LY LOOPaaNOTCHED UPPER RIGHT-SHADOWED WHITE RIGHTWARDS ARROWaaCIRCLED HEAVY WHITE RIGHTWARDS A",
  "RROWaaWHITE-FEATHERED RIGHTWARDS ARROWaaBLACK-FEATHERED SOUTH EAST ARROWaqRIGHTWARDS ARROWaqNO",
  "RTH EAST ARROWaaHEAVY BLACK-FEATHERED SOUTH EAST ARROWawRIGHTWARDS ARROWawNORTH EAST ARROWaaTE",
  "ARDROP-BARBED RIGHTWARDS ARROWaaHEAVY TEARDROP-SHANKED RIGHTWARDS ARROWaaWEDGE-TAILED RIGHTWAR",
  "DS ARROWaaHEAVY WEDGE-TAILED RIGHTWARDS ARROWaaOPEN-OUTLINED RIGHTWARDS ARROWaaDOUBLE CURLY LO",
  "OPaaTHREE DIMENSIONAL ANGLEaaWHITE TRIANGLE CONTAINING SMALL WHITE TRIANGLEaaPERPENDICULARaaOP",
  "EN SUBSETahPERSETaaLEFT S-SHAPED BAG DELIMITERaaRIGHT S-SHAPED BAG DELIMITERaaOR WITH DOT INSI",
  "DEaaREVERSE SOLIDUS PRECEDING SUBSETaaSUPERSET PRECEDING SOLIDUSaaVERTICAL BAR WITH HORIZONTAL",
  " STROKEaaMATHEMATICAL RISING DIAGONALaaLONG DIVISIONaaMATHEMATICAL FALLING DIAGONALaaSQUARED L",
  "OGICAL ANDaqORaaWHITE DIAMOND WITH CENTRED DOTaaAND WITH DOTaaELEMENT OF OPENING UPWARDSaaLOWE",
  "R RIGHT CORNER WITH DOTaaUPPER LEFT CORNER WITH DOTaaLEFT OUTER JOINaaRIGHT OUTER JOINaaFULL O",
  "UTER JOINaaLARGE UP TACKagDOWN TACKabEFT AND RIGHT DOUBLE TURNSTILEapTACKafMULTIMAPabONG RIGHT",
  " TACKafLEFT TACKaaUP TACK WITH CIRCLE ABOVEaaLOZENGE DIVIDED BY HORIZONTAL RULEaaWHITE CONCAVE",
  "-SIDED DIAMONDbb WITH LEFTWARDS TICKbhRIGHTWARDS TICKagSQUARE WITH LEFTWARDS TICKasRIGHTWARDS ",
  "TICKaaMATHEMATICAL LEFT WHITE SQUARE BRACKETanRIGHT WHITE SQUARE BRACKETanLEFT ANGLE BRACKETan",
  "RIGHT ANGLE BRACKETanLEFT DOUBLE ANGLE BRACKETanRIGHT DOUBLE ANGLE BRACKETanLEFT WHITE TORTOIS",
  "E SHELL BRACKETanRIGHT WHITE TORTOISE SHELL BRACKETanLEFT FLATTENED PARENTHESISanRIGHT FLATTEN",
  "ED PARENTHESISaaUPWARDS QUADRUPLE ARROWaaDOWNWARDS QUADRUPLE ARROWaaANTICLOCKWISE GAPPED CIRCL",
  "E ARROWaaCLOCKWISE GAPPED CIRCLE ARROWaaRIGHT ARROW WITH CIRCLED PLUSaaLONG LEFTWARDS ARROWafR",
  "IGHTWARDS ARROWafLEFT RIGHT ARROWajWARDS DOUBLE ARROWafRIGHTWARDS DOUBLE ARROWafLEFT RIGHT DOU",
  "BLE ARROWajWARDS ARROW FROM BARafRIGHTWARDS ARROW FROM BARafLEFTWARDS DOUBLE ARROW FROM BARafR",
  "IGHTWARDS DOUBLE ARROW FROM BARaqSQUIGGLE ARROWaaBRAILLE PATTERN BLANKaqDOTS-1av2av12av3av13av",
  "23av123av4av14av24av124av34av134av234av1234av5av15av25av125av35av135av235av1235av45av145av245a",
  "v1245av345av1345av2345av12345av6av16av26av126av36av136av236av1236av46av146av246av1246av346av13",
  "46av2346av12346av56av156av256av1256av356av1356av2356av12356av456av1456av2456av12456av3456av134",
  "56av23456av123456av7av17av27av127av37av137av237av1237av47av147av247av1247av347av1347av2347av12",
  "347av57av157av257av1257av357av1357av2357av12357av457av1457av2457av12457av3457av13457av23457av1",
  "23457av67av167av267av1267av367av1367av2367av12367av467av1467av2467av12467av3467av13467av23467a",
  "v123467av567av1567av2567av12567av3567av13567av23567av123567av4567av14567av24567av124567av34567",
  "av134567av234567av1234567av8av18av28av128av38av138av238av1238av48av148av248av1248av348av1348av",
  "2348av12348av58av158av258av1258av358av1358av2358av12358av458av1458av2458av12458av3458av13458av",
  "23458av123458av68av168av268av1268av368av1368av2368av12368av468av1468av2468av12468av3468av13468",
  "av23468av123468av568av1568av2568av12568av3568av13568av23568av123568av4568av14568av24568av12456",
  "8av34568av134568av234568av1234568av78av178av278av1278av378av1378av2378av12378av478av1478av2478",
  "av12478av3478av13478av23478av123478av578av1578av2578av12578av3578av13578av23578av123578av4578a",
  "v14578av24578av124578av34578av134578av234578av1234578av678av1678av2678av12678av3678av13678av23",
  "678av123678av4678av14678av24678av124678av34678av134678av234678av1234678av5678av15678av25678av1",
  "25678av35678av135678av235678av1235678av45678av145678av245678av1245678av345678av1345678av234567",
  "8av12345678aaRIGHTWARDS TWO-HEADED ARROW WITH VERTICAL STROKEbhDOUBLE VERTICAL STROKEaaLEFTWAR",
  "DS DOUBLE ARROW WITH VERTICAL STROKEaaRIGHTWARDS DOUBLE ARROW WITH VERTICAL STROKEaaLEFT RIGHT",
  " DOUBLE ARROW WITH VERTICAL STROKEaaRIGHTWARDS TWO-HEADED ARROW FROM BARaaLEFTWARDS DOUBLE ARR",
  "OW FROM BARaaRIGHTWARDS DOUBLE ARROW FROM BARaaDOWNWARDS ARROW WITH HORIZONTAL STROKEaaUPWARDS",
  " ARROW WITH HORIZONTAL STROKEaiTRIPLE ARROWaaDOWNWARDS TRIPLE ARROWaaLEFTWARDS DOUBLE DASH ARR",
  "OWaaRIGHTWARDS DOUBLE DASH ARROWaaLEFTWARDS TRIPLE DASH ARROWaaRIGHTWARDS TRIPLE DASH ARROWamW",
  "O-HEADED TRIPLE DASH ARROWalARROW WITH DOTTED STEMaaUPWARDS ARROW TO BARaaDOWNWARDS ARROW TO B",
  "ARaaRIGHTWARDS ARROW WITH TAIL WITH VERTICAL STROKEbgDOUBLE VERTICAL STROKEalTWO-HEADED ARROW ",
  "WITH TAILbl WITH VERTICAL STROKEbrDOUBLE VERTICAL STROKEaaLEFTWARDS ARROW-TAILaaRIGHTWARDS ARR",
  "OW-TAILaaLEFTWARDS DOUBLE ARROW-TAILaaRIGHTWARDS DOUBLE ARROW-TAILaaLEFTWARDS ARROW TO BLACK D",
  "IAMONDaaRIGHTWARDS ARROW TO BLACK DIAMONDaaLEFTWARDS ARROW FROM BAR TO BLACK DIAMONDaaRIGHTWAR",
  "DS ARROW FROM BAR TO BLACK DIAMONDaaNORTH WEST AND SOUTH EAST ARROWagEAST AND SOUTH WEST ARROW",
  "agWEST ARROW WITH HOOKagEAST ARROW WITH HOOKaaSOUTH EAST ARROW WITH HOOKagWEST ARROW WITH HOOK",
  "aaNORTH WEST ARROW AND NORTH EAST ARROWagEAST ARROW AND SOUTH EAST ARROWaaSOUTH EAST ARROW AND",
  " SOUTH WEST ARROWagWEST ARROW AND NORTH WEST ARROWaaRISING DIAGONAL CROSSING FALLING DIAGONALa",
  "aFALLING DIAGONAL CROSSING RISING DIAGONALaaSOUTH EAST ARROW CROSSING NORTH EAST ARROWaaNORTH ",
  "EAST ARROW CROSSING SOUTH EAST ARROWaaFALLING DIAGONAL CROSSING NORTH EAST ARROWaaRISING DIAGO",
  "NAL CROSSING SOUTH EAST ARROWaaNORTH EAST ARROW CROSSING NORTH WEST ARROWagWEST ARROW CROSSING",
  " NORTH EAST ARROWaaWAVE ARROW POINTING DIRECTLY RIGHTaaARROW POINTING RIGHTWARDS THEN CURVING ",
  "UPWARDSbnDOWNWARDSapDOWNWARDS THEN CURVING LEFTWARDSbmRIGHTWARDSaaRIGHT-SIDE ARC CLOCKWISE ARR",
  "OWaaLEFT-SIDE ARC ANTICLOCKWISE ARROWaaTOP ARC ANTICLOCKWISE ARROWaaBOTTOM ARC ANTICLOCKWISE A",
  "RROWaaTOP ARC CLOCKWISE ARROW WITH MINUSaiANTICLOCKWISE ARROW WITH PLUSaaLOWER RIGHT SEMICIRCU",
  "LAR CLOCKWISE ARROWagLEFT SEMICIRCULAR ANTICLOCKWISE ARROWaaANTICLOCKWISE CLOSED CIRCLE ARROWa",
  "aCLOCKWISE CLOSED CIRCLE ARROWaaRIGHTWARDS ARROW ABOVE SHORT LEFTWARDS ARROWaaLEFTWARDS ARROW ",
  "ABOVE SHORT RIGHTWARDS ARROWaaSHORT RIGHTWARDS ARROW ABOVE LEFTWARDS ARROWaaRIGHTWARDS ARROW W",
  "ITH PLUS BELOWaaLEFTWARDS ARROW WITH PLUS BELOWaaRIGHTWARDS ARROW THROUGH XaaLEFT RIGHT ARROW ",
  "THROUGH SMALL CIRCLEaaUPWARDS TWO-HEADED ARROW FROM SMALL CIRCLEaaLEFT BARB UP RIGHT BARB DOWN",
  " HARPOONakDOWN RIGHT BARB UP HARPOONaaUP BARB RIGHT DOWN BARB LEFT HARPOONaiLEFT DOWN BARB RIG",
  "HT HARPOONaaLEFT BARB UP RIGHT BARB UP HARPOONaaUP BARB RIGHT DOWN BARB RIGHT HARPOONaaLEFT BA",
  "RB DOWN RIGHT BARB DOWN HARPOONaaUP BARB LEFT DOWN BARB LEFT HARPOONaaLEFTWARDS HARPOON WITH B",
  "ARB UP TO BARaaRIGHTWARDS HARPOON WITH BARB UP TO BARaaUPWARDS HARPOON WITH BARB RIGHT TO BARa",
  "aDOWNWARDS HARPOON WITH BARB RIGHT TO BARaaLEFTWARDS HARPOON WITH BARB DOWN TO BARaaRIGHTWARDS",
  " HARPOON WITH BARB DOWN TO BARaaUPWARDS HARPOON WITH BARB LEFT TO BARaaDOWNWARDS HARPOON WITH ",
  "BARB LEFT TO BARaaLEFTWARDS HARPOON WITH BARB UP FROM BARaaRIGHTWARDS HARPOON WITH BARB UP FRO",
  "M BARaaUPWARDS HARPOON WITH BARB RIGHT FROM BARaaDOWNWARDS HARPOON WITH BARB RIGHT FROM BARaaL",
  "EFTWARDS HARPOON WITH BARB DOWN FROM BARaaRIGHTWARDS HARPOON WITH BARB DOWN FROM BARaaUPWARDS ",
  "HARPOON WITH BARB LEFT FROM BARaaDOWNWARDS HARPOON WITH BARB LEFT FROM BARaaLEFTWARDS HARPOON ",
  "WITH BARB UP ABOVE LEFTWARDS HARPOON WITH BARB DOWNaaUPWARDS HARPOON WITH BARB LEFT BESIDE UPW",
  "ARDS HARPOON WITH BARB RIGHTaaRIGHTWARDS HARPOON WITH BARB UP ABOVE RIGHTWARDS HARPOON WITH BA",
  "RB DOWNaaDOWNWARDS HARPOON WITH BARB LEFT BESIDE DOWNWARDS HARPOON WITH BARB RIGHTaaLEFTWARDS ",
  "HARPOON WITH BARB UP ABOVE RIGHTWARDS HARPOON WITH BARB UPbcDOWN ABOVE RIGHTWARDS HARPOON WITH",
  " BARB DOWNaaRIGHTWARDS HARPOON WITH BARB UP ABOVE LEFTWARDS HARPOON WITH BARB UPbdDOWN ABOVE L",
  "EFTWARDS HARPOON WITH BARB DOWNaaLEFTWARDS HARPOON WITH BARB UP ABOVE LONG DASHbcDOWN BELOW LO",
  "NG DASHaaRIGHTWARDS HARPOON WITH BARB UP ABOVE LONG DASHbdDOWN BELOW LONG DASHaaUPWARDS HARPOO",
  "N WITH BARB LEFT BESIDE DOWNWARDS HARPOON WITH BARB RIGHTaaDOWNWARDS HARPOON WITH BARB LEFT BE",
  "SIDE UPWARDS HARPOON WITH BARB RIGHTaaRIGHT DOUBLE ARROW WITH ROUNDED HEADaaEQUALS SIGN ABOVE ",
  "RIGHTWARDS ARROWaaTILDE OPERATOR ABOVE RIGHTWARDS ARROWaaLEFTWARDS ARROW ABOVE TILDE OPERATORa",
  "aRIGHTWARDS ARROW ABOVE TILDE OPERATORaxALMOST EQUAL TOaaLESS-THAN ABOVE LEFTWARDS ARROWacFTWA",
  "RDS ARROW THROUGH LESS-THANaaGREATER-THAN ABOVE RIGHTWARDS ARROWaaSUBSET ABOVE RIGHTWARDS ARRO",
  "WaaLEFTWARDS ARROW THROUGH SUBSETaaSUPERSET ABOVE LEFTWARDS ARROWaaLEFT FISH TAILaaRIGHT FISH ",
  "TAILaaUP FISH TAILaaDOWN FISH TAILaaTRIPLE VERTICAL BAR DELIMITERaaZ NOTATION SPOTalTYPE COLON",
  "aaLEFT WHITE CURLY BRACKETaaRIGHT WHITE CURLY BRACKETaaLEFT WHITE PARENTHESISaaRIGHT WHITE PAR",
  "ENTHESISaaZ NOTATION LEFT IMAGE BRACKETalRIGHT IMAGE BRACKETalLEFT BINDING BRACKETalRIGHT BIND",
  "ING BRACKETaaLEFT SQUARE BRACKET WITH UNDERBARaaRIGHT SQUARE BRACKET WITH UNDERBARaaLEFT SQUAR",
  "E BRACKET WITH TICK IN TOP CORNERaaRIGHT SQUARE BRACKET WITH TICK IN BOTTOM CORNERaaLEFT SQUAR",
  "E BRACKET WITH TICK IN BOTTOM CORNERaaRIGHT SQUARE BRACKET WITH TICK IN TOP CORNERaaLEFT ANGLE",
  " BRACKET WITH DOTaaRIGHT ANGLE BRACKET WITH DOTaaLEFT ARC LESS-THAN BRACKETaaRIGHT ARC GREATER",
  "-THAN BRACKETaaDOUBLE LEFT ARC GREATER-THAN BRACKETahRIGHT ARC LESS-THAN BRACKETaaLEFT BLACK T",
  "ORTOISE SHELL BRACKETaaRIGHT BLACK TORTOISE SHELL BRACKETaaDOTTED FENCEaaVERTICAL ZIGZAG LINEa",
  "aMEASURED ANGLE OPENING LEFTaaRIGHT ANGLE VARIANT WITH SQUAREaaMEASURED RIGHT ANGLE WITH DOTaa",
  "ANGLE WITH S INSIDEabCUTE ANGLEaaSPHERICAL ANGLE OPENING LEFTayUPaaTURNED ANGLEaaREVERSED ANGL",
  "EaaANGLE WITH UNDERBARaaREVERSED ANGLE WITH UNDERBARaaOBLIQUE ANGLE OPENING UPawDOWNaaMEASURED",
  " ANGLE WITH OPEN ARM ENDING IN ARROW POINTING UP AND RIGHTcjLEFTccDOWN AND RIGHTclLEFTccRIGHT ",
  "AND UPccLEFT AND UPccRIGHT AND DOWNccLEFT AND DOWNaaREVERSED EMPTY SETaaEMPTY SET WITH OVERBAR",
  "apSMALL CIRCLE ABOVEapRIGHT ARROW ABOVEapLEFT ARROW ABOVEaaCIRCLE WITH HORIZONTAL BARagD VERTI",
  "CAL BARaiPARALLELaiREVERSE SOLIDUSaiPERPENDICULARag DIVIDED BY HORIZONTAL BAR AND TOP HALF DIV",
  "IDED BY VERTICAL BARahWITH SUPERIMPOSED XagD ANTICLOCKWISE-ROTATED DIVISION SIGNaaUP ARROW THR",
  "OUGH CIRCLEaaCIRCLED WHITE BULLETaiBULLETaiLESS-THANaiGREATER-THANag WITH SMALL CIRCLE TO THE ",
  "RIGHTamTWO HORIZONTAL STROKES TO THE RIGHTaaSQUARED RISING DIAGONAL SLASHaiFALLING DIAGONAL SL",
  "ASHaiASTERISKaiSMALL CIRCLEajQUAREaaTWO JOINED SQUARESabRIANGLE WITH DOT ABOVEaoUNDERBARaaS IN",
  " TRIANGLEaaTRIANGLE WITH SERIFS AT BOTTOMaaRIGHT TRIANGLE ABOVE LEFT TRIANGLEaaLEFT TRIANGLE B",
  "ESIDE VERTICAL BARaaVERTICAL BAR BESIDE RIGHT TRIANGLEaaBOWTIE WITH LEFT HALF BLACKamRIGHT HAL",
  "F BLACKabLACK BOWTIEaaTIMES WITH LEFT HALF BLACKalRIGHT HALF BLACKaaWHITE HOURGLASSaaBLACK HOU",
  "RGLASSaaLEFT WIGGLY FENCEaaRIGHT WIGGLY FENCEaaLEFT DOUBLE WIGGLY FENCEaaRIGHT DOUBLE WIGGLY F",
  "ENCEaaINCOMPLETE INFINITYaaTIE OVER INFINITYaaINFINITY NEGATED WITH VERTICAL BARaaDOUBLE-ENDED",
  " MULTIMAPaaSQUARE WITH CONTOURED OUTLINEaaINCREASES ASaaSHUFFLE PRODUCTaaEQUALS SIGN AND SLANT",
  "ED PARALLELbg WITH TILDE ABOVEaaIDENTICAL TO AND SLANTED PARALLELaaGLEICH STARKaaTHERMODYNAMIC",
  "aaDOWN-POINTING TRIANGLE WITH LEFT HALF BLACKbcRIGHT HALF BLACKaaBLACK DIAMOND WITH DOWN ARROW",
  "agLOZENGEaaWHITE CIRCLE WITH DOWN ARROWaaBLACK CIRCLE WITH DOWN ARROWaaERROR-BARRED WHITE SQUA",
  "REanBLACK SQUAREanWHITE DIAMONDanBLACK DIAMONDanWHITE CIRCLEanBLACK CIRCLEaaRULE-DELAYEDabEVER",
  "SE SOLIDUS OPERATORaaSOLIDUS WITH OVERBARaaREVERSE SOLIDUS WITH HORIZONTAL STROKEaaBIG SOLIDUS",
  "aeREVERSE SOLIDUSaaDOUBLE PLUSaaTRIPLE PLUSaaLEFT-POINTING CURVED ANGLE BRACKETaaRIGHT-POINTIN",
  "G CURVED ANGLE BRACKETaaTINYaaMINYaaN-ARY CIRCLED DOT OPERATORaoPLUS OPERATORaoTIMES OPERATORa",
  "gUNION OPERATOR WITH DOTbaPLUSagSQUARE INTERSECTION OPERATORanUNION OPERATORaaTWO LOGICAL AND ",
  "OPERATORamOR OPERATORaaN-ARY TIMES OPERATORaaMODULO TWO SUMaaSUMMATION WITH INTEGRALaaQUADRUPL",
  "E INTEGRAL OPERATORaaFINITE PART INTEGRALaaINTEGRAL WITH DOUBLE STROKEajAVERAGE WITH SLASHaaCI",
  "RCULATION FUNCTIONaaANTICLOCKWISE INTEGRATIONaaLINE INTEGRATION WITH RECTANGULAR PATH AROUND P",
  "OLEawSEMICIRCULAR PATH AROUND POLEarNOT INCLUDING THE POLEaaINTEGRAL AROUND A POINT OPERATORaa",
  "QUATERNION INTEGRAL OPERATORaaINTEGRAL WITH LEFTWARDS ARROW WITH HOOKaoTIMES SIGNaoINTERSECTIO",
  "NaoUNIONaoOVERBARaoUNDERBARaaJOINaaLARGE LEFT TRIANGLE OPERATORaaZ NOTATION SCHEMA COMPOSITION",
  "asPIPINGatROJECTIONaaPLUS SIGN WITH SMALL CIRCLE ABOVEapCIRCUMFLEX ACCENT ABOVEapTILDE ABOVEap",
  "DOT BELOWapTILDE BELOWapSUBSCRIPT TWOapBLACK TRIANGLEaaMINUS SIGN WITH COMMA ABOVEaqDOT BELOWa",
  "qFALLING DOTSaqRISING DOTSaaPLUS SIGN IN LEFT HALF CIRCLEanRIGHT HALF CIRCLEaaVECTOR OR CROSS ",
  "PRODUCTaaMULTIPLICATION SIGN WITH DOT ABOVEazUNDERBARaaSEMIDIRECT PRODUCT WITH BOTTOM CLOSEDab",
  "MASH PRODUCTaaMULTIPLICATION SIGN IN LEFT HALF CIRCLEaxRIGHT HALF CIRCLEaaCIRCLED MULTIPLICATI",
  "ON SIGN WITH CIRCUMFLEX ACCENTaaMULTIPLICATION SIGN IN DOUBLE CIRCLEaaCIRCLED DIVISION SIGNaaP",
  "LUS SIGN IN TRIANGLEaaMINUS SIGN IN TRIANGLEabULTIPLICATION SIGN IN TRIANGLEaaINTERIOR PRODUCT",
  "aaRIGHTHAND INTERIOR PRODUCTaaZ NOTATION RELATIONAL COMPOSITIONaaAMALGAMATION OR COPRODUCTaaIN",
  "TERSECTION WITH DOTaaUNION WITH MINUS SIGNalOVERBARaaINTERSECTION WITH OVERBARasLOGICAL ANDaaU",
  "NION WITH LOGICAL ORagABOVE INTERSECTIONaaINTERSECTION ABOVE UNIONaaUNION ABOVE BAR ABOVE INTE",
  "RSECTIONaaINTERSECTION ABOVE BAR ABOVE UNIONaaUNION BESIDE AND JOINED WITH UNIONaaINTERSECTION",
  " BESIDE AND JOINED WITH INTERSECTIONaaCLOSED UNION WITH SERIFSahINTERSECTION WITH SERIFSaaDOUB",
  "LE SQUARE INTERSECTIONaoUNIONaaCLOSED UNION WITH SERIFS AND SMASH PRODUCTaaLOGICAL AND WITH DO",
  "T ABOVEaiOR WITH DOT ABOVEaaDOUBLE LOGICAL ANDapORaaTWO INTERSECTING LOGICAL ANDazORaaSLOPING ",
  "LARGE ORaoANDaaLOGICAL OR OVERLAPPING LOGICAL ANDaiAND WITH MIDDLE STEMaiOR WITH MIDDLE STEMai",
  "AND WITH HORIZONTAL DASHaiOR WITH HORIZONTAL DASHaiAND WITH DOUBLE OVERBARarUNDERBARarDOUBLE U",
  "NDERBARaaSMALL VEE WITH UNDERBARaaLOGICAL OR WITH DOUBLE OVERBARaxUNDERBARaaZ NOTATION DOMAIN ",
  "ANTIRESTRICTIONalRANGE ANTIRESTRICTIONaaEQUALS SIGN WITH DOT BELOWaaIDENTICAL WITH DOT ABOVEaa",
  "TRIPLE HORIZONTAL BAR WITH DOUBLE VERTICAL STROKEbbTRIPLE VERTICAL STROKEabILDE OPERATOR WITH ",
  "DOT ABOVEauRISING DOTSaaSIMILAR MINUS SIMILARaaCONGRUENT WITH DOT ABOVEaaEQUALS WITH ASTERISKa",
  "aALMOST EQUAL TO WITH CIRCUMFLEX ACCENTabPPROXIMATELY EQUAL OR EQUAL TOaaEQUALS SIGN ABOVE PLU",
  "S SIGNaaPLUS SIGN ABOVE EQUALS SIGNaaEQUALS SIGN ABOVE TILDE OPERATORaaDOUBLE COLON EQUALaaTWO",
  " CONSECUTIVE EQUALS SIGNSabHREE CONSECUTIVE EQUALS SIGNSaaEQUALS SIGN WITH TWO DOTS ABOVE AND ",
  "TWO DOTS BELOWadIVALENT WITH FOUR DOTS ABOVEaaLESS-THAN WITH CIRCLE INSIDEaaGREATER-THAN WITH ",
  "CIRCLE INSIDEaaLESS-THAN WITH QUESTION MARK ABOVEaaGREATER-THAN WITH QUESTION MARK ABOVEaaLESS",
  "-THAN OR SLANTED EQUAL TOaaGREATER-THAN OR SLANTED EQUAL TOaaLESS-THAN OR SLANTED EQUAL TO WIT",
  "H DOT INSIDEaaGREATER-THAN OR SLANTED EQUAL TO WITH DOT INSIDEaaLESS-THAN OR SLANTED EQUAL TO ",
  "WITH DOT ABOVEaaGREATER-THAN OR SLANTED EQUAL TO WITH DOT ABOVEaaLESS-THAN OR SLANTED EQUAL TO",
  " WITH DOT ABOVE RIGHTaaGREATER-THAN OR SLANTED EQUAL TO WITH DOT ABOVE LEFTaaLESS-THAN OR APPR",
  "OXIMATEaaGREATER-THAN OR APPROXIMATEaaLESS-THAN AND SINGLE-LINE NOT EQUAL TOaaGREATER-THAN AND",
  " SINGLE-LINE NOT EQUAL TOaaLESS-THAN AND NOT APPROXIMATEaaGREATER-THAN AND NOT APPROXIMATEaaLE",
  "SS-THAN ABOVE DOUBLE-LINE EQUAL ABOVE GREATER-THANaaGREATER-THAN ABOVE DOUBLE-LINE EQUAL ABOVE",
  " LESS-THANaaLESS-THAN ABOVE SIMILAR OR EQUALaaGREATER-THAN ABOVE SIMILAR OR EQUALaaLESS-THAN A",
  "BOVE SIMILAR ABOVE GREATER-THANaaGREATER-THAN ABOVE SIMILAR ABOVE LESS-THANaaLESS-THAN ABOVE G",
  "REATER-THAN ABOVE DOUBLE-LINE EQUALaaGREATER-THAN ABOVE LESS-THAN ABOVE DOUBLE-LINE EQUALaaLES",
  "S-THAN ABOVE SLANTED EQUAL ABOVE GREATER-THAN ABOVE SLANTED EQUALaaGREATER-THAN ABOVE SLANTED ",
  "EQUAL ABOVE LESS-THAN ABOVE SLANTED EQUALaaSLANTED EQUAL TO OR LESS-THANauGREATER-THANauLESS-T",
  "HAN WITH DOT INSIDEauGREATER-THAN WITH DOT INSIDEaaDOUBLE-LINE EQUAL TO OR LESS-THANayGREATER-",
  "THANamSLANTED EQUAL TO OR LESS-THANbgGREATER-THANaaSIMILAR OR LESS-THANalGREATER-THANaiABOVE L",
  "ESS-THAN ABOVE EQUALS SIGNaoGREATER-THAN ABOVE EQUALS SIGNaaDOUBLE NESTED LESS-THANaoGREATER-T",
  "HANaoLESS-THAN WITH UNDERBARaaGREATER-THAN OVERLAPPING LESS-THANanBESIDE LESS-THANaaLESS-THAN ",
  "CLOSED BY CURVEaaGREATER-THAN CLOSED BY CURVEaaLESS-THAN CLOSED BY CURVE ABOVE SLANTED EQUALaa",
  "GREATER-THAN CLOSED BY CURVE ABOVE SLANTED EQUALaaSMALLER THANaaLARGER THANaaSMALLER THAN OR E",
  "QUAL TOaaLARGER THAN OR EQUAL TOaaEQUALS SIGN WITH BUMPY ABOVEaaPRECEDES ABOVE SINGLE-LINE EQU",
  "ALS SIGNaaSUCCEEDS ABOVE SINGLE-LINE EQUALS SIGNaaPRECEDES ABOVE SINGLE-LINE NOT EQUAL TOaaSUC",
  "CEEDS ABOVE SINGLE-LINE NOT EQUAL TOaaPRECEDES ABOVE EQUALS SIGNaaSUCCEEDS ABOVE EQUALS SIGNaa",
  "PRECEDES ABOVE NOT EQUAL TOaaSUCCEEDS ABOVE NOT EQUAL TOaaPRECEDES ABOVE ALMOST EQUAL TOaaSUCC",
  "EEDS ABOVE ALMOST EQUAL TOaaPRECEDES ABOVE NOT ALMOST EQUAL TOaaSUCCEEDS ABOVE NOT ALMOST EQUA",
  "L TOaaDOUBLE PRECEDESahSUCCEEDSaaSUBSET WITH DOTacPERSET WITH DOTacBSET WITH PLUS SIGN BELOWac",
  "PERSET WITH PLUS SIGN BELOWacBSET WITH MULTIPLICATION SIGN BELOWacPERSET WITH MULTIPLICATION S",
  "IGN BELOWacBSET OF OR EQUAL TO WITH DOT ABOVEacPERSET OF OR EQUAL TO WITH DOT ABOVEacBSET OF A",
  "BOVE EQUALS SIGNacPERSET OF ABOVE EQUALS SIGNacBSET OF ABOVE TILDE OPERATORacPERSET OF ABOVE T",
  "ILDE OPERATORacBSET OF ABOVE ALMOST EQUAL TOacPERSET OF ABOVE ALMOST EQUAL TOacBSET OF ABOVE N",
  "OT EQUAL TOacPERSET OF ABOVE NOT EQUAL TOabQUARE LEFT OPEN BOX OPERATORahRIGHT OPEN BOX OPERAT",
  "ORaaCLOSED SUBSETajPERSETajBSET OR EQUAL TOajPERSET OR EQUAL TOaaSUBSET ABOVE SUPERSETacPERSET",
  " ABOVE SUBSETacBSET ABOVE SUBSETacPERSET ABOVE SUPERSETajBESIDE SUBSETaqAND JOINED BY DASH WIT",
  "H SUBSETaaELEMENT OF OPENING DOWNWARDSaaPITCHFORK WITH TEE TOPaaTRANSVERSAL INTERSECTIONaaFORK",
  "INGaaNONFORKINGaaSHORT LEFT TACKagDOWN TACKagUP TACKaaPERPENDICULAR WITH SaaVERTICAL BAR TRIPL",
  "E RIGHT TURNSTILEaaDOUBLE VERTICAL BAR LEFT TURNSTILEaaVERTICAL BAR DOUBLE LEFT TURNSTILEaaDOU",
  "BLE VERTICAL BAR DOUBLE LEFT TURNSTILEaaLONG DASH FROM LEFT MEMBER OF DOUBLE VERTICALaaSHORT D",
  "OWN TACK WITH OVERBARagUP TACK WITH UNDERBARaoABOVE SHORT DOWN TACKaaDOUBLE DOWN TACKahUP TACK",
  "ahSTROKE NOT SIGNaaREVERSED DOUBLE STROKE NOT SIGNaaDOES NOT DIVIDE WITH REVERSED NEGATION SLA",
  "SHaaVERTICAL LINE WITH CIRCLE ABOVEbaBELOWaaDOWN TACK WITH CIRCLE BELOWaaPARALLEL WITH HORIZON",
  "TAL STROKEaoTILDE OPERATORaaTRIPLE VERTICAL BAR BINARY RELATIONauWITH HORIZONTAL STROKEahCOLON",
  " OPERATORahNESTED LESS-THANaoGREATER-THANaaDOUBLE-LINE SLANTED LESS-THAN OR EQUAL TOauGREATER-",
  "THAN OR EQUAL TOaaTRIPLE SOLIDUS BINARY RELATIONaaLARGE TRIPLE VERTICAL BAR OPERATORaaDOUBLE S",
  "OLIDUS OPERATORaaWHITE VERTICAL BARaaN-ARY WHITE VERTICAL BARabORTH EAST WHITE ARROWagWEST WHI",
  "TE ARROWaaSOUTH EAST WHITE ARROWagWEST WHITE ARROWaaLEFT RIGHT WHITE ARROWaeWARDS BLACK ARROWa",
  "aUPWARDS BLACK ARROWaaDOWNWARDS BLACK ARROWaaNORTH EAST BLACK ARROWagWEST BLACK ARROWaaSOUTH E",
  "AST BLACK ARROWagWEST BLACK ARROWaaLEFT RIGHT BLACK ARROWaaUP DOWN BLACK ARROWaaRIGHTWARDS ARR",
  "OW WITH TIP DOWNWARDSbaUPWARDSaaLEFTWARDS ARROW WITH TIP DOWNWARDSazUPWARDSaaSQUARE WITH TOP H",
  "ALF BLACKamBOTTOM HALF BLACKamUPPER RIGHT DIAGONAL HALF BLACKamLOWER LEFT DIAGONAL HALF BLACKa",
  "aDIAMOND WITH LEFT HALF BLACKanRIGHT HALF BLACKanTOP HALF BLACKanBOTTOM HALF BLACKabOTTED SQUA",
  "REaaBLACK LARGE SQUAREaaWHITE LARGE SQUAREaaBLACK VERY SMALL SQUAREaaWHITE VERY SMALL SQUAREaa",
  "BLACK PENTAGONaaWHITE PENTAGONagHEXAGONaaBLACK HEXAGONaaHORIZONTAL BLACK HEXAGONaaBLACK LARGE ",
  "CIRCLEagMEDIUM DIAMONDaaWHITE MEDIUM DIAMONDaaBLACK MEDIUM LOZENGEaaWHITE MEDIUM LOZENGEaaBLAC",
  "K SMALL DIAMONDamLOZENGEaaWHITE SMALL LOZENGEaaBLACK HORIZONTAL ELLIPSEaaWHITE HORIZONTAL ELLI",
  "PSEaaBLACK VERTICAL ELLIPSEaaWHITE VERTICAL ELLIPSEaaLEFT ARROW WITH SMALL CIRCLEaaTHREE LEFTW",
  "ARDS ARROWSaaLEFT ARROW WITH CIRCLED PLUSabONG LEFTWARDS SQUIGGLE ARROWabEFTWARDS TWO-HEADED A",
  "RROW WITH VERTICAL STROKEbgDOUBLE VERTICAL STROKEbbFROM BARavTRIPLE DASH ARROWakARROW WITH DOT",
  "TED STEMavTAIL WITH VERTICAL STROKEbfDOUBLE VERTICAL STROKEakTWO-HEADED ARROW WITH TAILbk WITH",
  " VERTICAL STROKEbqDOUBLE VERTICAL STROKEakARROW THROUGH XaaWAVE ARROW POINTING DIRECTLY LEFTaa",
  "EQUALS SIGN ABOVE LEFTWARDS ARROWaaREVERSE TILDE OPERATOR ABOVE LEFTWARDS ARROWaaLEFTWARDS ARR",
  "OW ABOVE REVERSE ALMOST EQUAL TOaaRIGHTWARDS ARROW THROUGH GREATER-THANazSUPERSETaaLEFTWARDS Q",
  "UADRUPLE ARROWaaRIGHTWARDS QUADRUPLE ARROWabEVERSE TILDE OPERATOR ABOVE RIGHTWARDS ARROWabIGHT",
  "WARDS ARROW ABOVE REVERSE ALMOST EQUAL TOaaTILDE OPERATOR ABOVE LEFTWARDS ARROWaaLEFTWARDS ARR",
  "OW ABOVE ALMOST EQUAL TOawREVERSE TILDE OPERATORaaRIGHTWARDS ARROW ABOVE REVERSE TILDE OPERATO",
  "RaaDOWNWARDS TRIANGLE-HEADED ZIGZAG ARROWaaSHORT SLANTED NORTH ARROWagBACKSLANTED SOUTH ARROWa",
  "aWHITE MEDIUM STARaaBLACK SMALL STARaaWHITE SMALL STARaaBLACK RIGHT-POINTING PENTAGONaaWHITE R",
  "IGHT-POINTING PENTAGONaaHEAVY LARGE CIRCLEagOVAL WITH OVAL INSIDEagCIRCLE WITH CIRCLE INSIDEam",
  "amD SALTIREaaSLANTED NORTH ARROW WITH HOOKED HEADaaBACKSLANTED SOUTH ARROW WITH HOOKED TAILaaS",
  "LANTED NORTH ARROW WITH HORIZONTAL TAILaaBACKSLANTED SOUTH ARROW WITH HORIZONTAL TAILabENT ARR",
  "OW POINTING DOWNWARDS THEN NORTH EASTaaSHORT BENT ARROW POINTING DOWNWARDS THEN NORTH EASTaaLE",
  "FTWARDS TRIANGLE-HEADED ARROWaaUPWARDS TRIANGLE-HEADED ARROWaaRIGHTWARDS TRIANGLE-HEADED ARROW",
  "aaDOWNWARDS TRIANGLE-HEADED ARROWaaLEFT RIGHT TRIANGLE-HEADED ARROWaaUP DOWN TRIANGLE-HEADED A",
  "RROWaaNORTH WEST TRIANGLE-HEADED ARROWagEAST TRIANGLE-HEADED ARROWaaSOUTH EAST TRIANGLE-HEADED",
  " ARROWagWEST TRIANGLE-HEADED ARROWaaLEFTWARDS TRIANGLE-HEADED DASHED ARROWaaUPWARDS TRIANGLE-H",
  "EADED DASHED ARROWaaRIGHTWARDS TRIANGLE-HEADED DASHED ARROWaaDOWNWARDS TRIANGLE-HEADED DASHED ",
  "ARROWaaCLOCKWISE TRIANGLE-HEADED OPEN CIRCLE ARROWaaANTICLOCKWISE TRIANGLE-HEADED OPEN CIRCLE ",
  "ARROWaaLEFTWARDS TRIANGLE-HEADED ARROW TO BARaaUPWARDS TRIANGLE-HEADED ARROW TO BARaaRIGHTWARD",
  "S TRIANGLE-HEADED ARROW TO BARaaDOWNWARDS TRIANGLE-HEADED ARROW TO BAR@02B76aaNORTH WEST TRIAN",
  "GLE-HEADED ARROW TO BARagEAST TRIANGLE-HEADED ARROW TO BARaaSOUTH EAST TRIANGLE-HEADED ARROW T",
  "O BARagWEST TRIANGLE-HEADED ARROW TO BARaaLEFTWARDS TRIANGLE-HEADED ARROW WITH DOUBLE HORIZONT",
  "AL STROKEaaUPWARDS TRIANGLE-HEADED ARROW WITH DOUBLE HORIZONTAL STROKEaaRIGHTWARDS TRIANGLE-HE",
  "ADED ARROW WITH DOUBLE HORIZONTAL STROKEaaDOWNWARDS TRIANGLE-HEADED ARROW WITH DOUBLE HORIZONT",
  "AL STROKEaaHORIZONTAL TAB KEYaaVERTICAL TAB KEYaaLEFTWARDS TRIANGLE-HEADED ARROW OVER RIGHTWAR",
  "DS TRIANGLE-HEADED ARROWaaUPWARDS TRIANGLE-HEADED ARROW LEFTWARDS OF DOWNWARDS TRIANGLE-HEADED",
  " ARROWaaRIGHTWARDS TRIANGLE-HEADED ARROW OVER LEFTWARDS TRIANGLE-HEADED ARROWaaDOWNWARDS TRIAN",
  "GLE-HEADED ARROW LEFTWARDS OF UPWARDS TRIANGLE-HEADED ARROWaaLEFTWARDS TRIANGLE-HEADED PAIRED ",
  "ARROWSaaUPWARDS TRIANGLE-HEADED PAIRED ARROWSaaRIGHTWARDS TRIANGLE-HEADED PAIRED ARROWSaaDOWNW",
  "ARDS TRIANGLE-HEADED PAIRED ARROWSaaLEFTWARDS BLACK CIRCLED WHITE ARROWaaUPWARDS BLACK CIRCLED",
  " WHITE ARROWaaRIGHTWARDS BLACK CIRCLED WHITE ARROWaaDOWNWARDS BLACK CIRCLED WHITE ARROWaaANTIC",
  "LOCKWISE TRIANGLE-HEADED RIGHT U-SHAPED ARROWbeBOTTOM U-SHAPED ARROWbeLEFT U-SHAPED ARROWbeTOP",
  " U-SHAPED ARROWaaRETURN LEFTahRIGHTaaNEWLINE LEFTaiRIGHTaaFOUR CORNER ARROWS CIRCLING ANTICLOC",
  "KWISEaaRIGHTWARDS BLACK ARROW@02B97aaSYMBOL FOR TYPE A ELECTRONICSaaTHREE-D TOP-LIGHTED LEFTWA",
  "RDS EQUILATERAL ARROWHEADaiRIGHT-LIGHTED UPWARDS EQUILATERAL ARROWHEADaiTOP-LIGHTED RIGHTWARDS",
  " EQUILATERAL ARROWHEADaiLEFT-LIGHTED DOWNWARDS EQUILATERAL ARROWHEADaaBLACK LEFTWARDS EQUILATE",
  "RAL ARROWHEADagUPWARDS EQUILATERAL ARROWHEADagRIGHTWARDS EQUILATERAL ARROWHEADagDOWNWARDS EQUI",
  "LATERAL ARROWHEADaaDOWNWARDS TRIANGLE-HEADED ARROW WITH LONG TIP LEFTWARDSbuRIGHTWARDSaaUPWARD",
  "S TRIANGLE-HEADED ARROW WITH LONG TIP LEFTWARDSbsRIGHTWARDSaaLEFTWARDS TRIANGLE-HEADED ARROW W",
  "ITH LONG TIP UPWARDSaaRIGHTWARDS TRIANGLE-HEADED ARROW WITH LONG TIP UPWARDSaaLEFTWARDS TRIANG",
  "LE-HEADED ARROW WITH LONG TIP DOWNWARDSaaRIGHTWARDS TRIANGLE-HEADED ARROW WITH LONG TIP DOWNWA",
  "RDSaaBLACK CURVED DOWNWARDS AND LEFTWARDS ARROWbbRIGHTWARDS ARROWanUPWARDS AND LEFTWARDS ARROW",
  "azRIGHTWARDS ARROWanLEFTWARDS AND UPWARDS ARROWanRIGHTWARDS AND UPWARDS ARROWanLEFTWARDS AND D",
  "OWNWARDS ARROWanRIGHTWARDS AND DOWNWARDS ARROWaaRIBBON ARROW DOWN LEFTasRIGHTanUP LEFTaqRIGHTa",
  "nLEFT UPanRIGHT UPanLEFT DOWNanRIGHT DOWNaaUPWARDS WHITE ARROW FROM BAR WITH HORIZONTAL BARac ",
  "ARROWHEAD IN A RECTANGLE BOXaaOVERLAPPING WHITE SQUARESasAND BLACK SQUARESamBLACK SQUARESaaBAL",
  "LOT BOX WITH LIGHT XaaCIRCLED XaiBOLD XaaBLACK SQUARE CENTREDagDIAMOND CENTREDaaTURNED BLACK P",
  "ENTAGONaaHORIZONTAL BLACK OCTAGONaaBLACK OCTAGONagMEDIUM UP-POINTING TRIANGLE CENTREDanDOWN-PO",
  "INTING TRIANGLE CENTREDanLEFT-POINTING TRIANGLE CENTREDanRIGHT-POINTING TRIANGLE CENTREDaaNEPT",
  "UNE FORM TWOaaTOP HALF BLACK CIRCLEaaBOTTOM HALF BLACK CIRCLEaaLIGHT FOUR POINTED BLACK CUSPaa",
  "ROTATED LIGHT FOUR POINTED BLACK CUSPaaWHITE FOUR POINTED CUSPaaROTATED WHITE FOUR POINTED CUS",
  "PaaSQUARE POSITION INDICATORaaUNCERTAINTY SIGNaaGROUP MARKaaPLUTO FORM TWOamHREEalFOURamIVEaaT",
  "RANSPLUTOaaPROSERPINAaaASTRAEAaaHYGIEAaaPHOLUSaaNESSUSaaWHITE MOON SELENAaaBLACK DIAMOND ON CR",
  "OSSaaTRUE LIGHT MOON ARTAaaCUPIDOaaHADESaaZEUSaaKRONOSaaAPOLLONabDMETOSaaVULCANUSaaPOSEIDONaaL",
  "EFT HALF BLACK STARaaRIGHT HALF BLACK STARaaSTAR WITH LEFT HALF BLACKakRIGHT HALF BLACKaaLEFTW",
  "ARDS TWO-HEADED ARROW WITH TRIANGLE ARROWHEADSaaUPWARDS TWO-HEADED ARROW WITH TRIANGLE ARROWHE",
  "ADSaaRIGHTWARDS TWO-HEADED ARROW WITH TRIANGLE ARROWHEADSaaDOWNWARDS TWO-HEADED ARROW WITH TRI",
  "ANGLE ARROWHEADSaaERIS FORM ONEakTWOaaSEDNAaaRUSSIAN ASTROLOGICAL SYMBOL VIGINTILEbcNOVILEbcQU",
  "INTILEbcBINOVILEbcSENTAGONbcTREDECILEaaEQUALS SIGN WITH INFINITY BELOWaaUNITED SYMBOLaaSEPARAT",
  "ED SYMBOLaaDOUBLED SYMBOLaaPASSED SYMBOLaaREVERSED RIGHT ANGLEaaHELLSCHREIBER PAUSE SYMBOLaaGL",
  "AGOLITIC CAPITAL LETTER AZUbaBUKYbaVEDEbaGLAGOLIbaDOBRObaYESTUbaZHIVETEbaDZELObaZEMLJAbaIZHEbb",
  "NITIAL IZHEbbbaDJERVIbaKAKObaLJUDIJEbaMYSLITEbaNASHIbaONUbaPOKOJIbaRITSIbaSLOVObaTVRIDObaUKUba",
  "FRITUbaHERUbaOTUbaPEbaSHTAbaTSIbaCHRIVIbaSHAbaYERUbdIbbATIbaSPIDERY HAbaYUbaSMALL YUSbj WITH T",
  "AILbaYObaIOTATED SMALL YUSbaBIG YUSbaIOTATED BIG YUSbaFITAbaIZHITSAbaSHTAPICbaTROKUTASTI AbaLA",
  "TINATE MYSLITEbaCAUDATE CHRIVIalSMALL LETTER AZUayBUKYayVEDEayGLAGOLIayDOBROayYESTUayZHIVETEay",
  "DZELOayZEMLJAayIZHEazNITIAL IZHEazayDJERVIayKAKOayLJUDIJEayMYSLITEayNASHIayONUayPOKOJIayRITSIa",
  "ySLOVOayTVRIDOayUKUayFRITUayHERUayOTUayPEaySHTAayTSIayCHRIVIaySHAayYERUbbIazATIaySPIDERY HAayY",
  "UaySMALL YUSbh WITH TAILayYOayIOTATED SMALL YUSayBIG YUSayIOTATED BIG YUSayFITAayIZHITSAaySHTA",
  "PICayTROKUTASTI AayLATINATE MYSLITEayCAUDATE CHRIVIaaLATIN CAPITAL LETTER L WITH DOUBLE BARagS",
  "MALL LETTER L WITH DOUBLE BARagCAPITAL LETTER L WITH MIDDLE TILDEavP WITH STROKEavR WITH TAILa",
  "gSMALL LETTER A WITH STROKEatT WITH DIAGONAL STROKEagCAPITAL LETTER H WITH DESCENDERagSMALL LE",
  "TTER H WITH DESCENDERagCAPITAL LETTER K WITH DESCENDERagSMALL LETTER K WITH DESCENDERagCAPITAL",
  " LETTER Z WITH DESCENDERagSMALL LETTER Z WITH DESCENDERagCAPITAL LETTER ALPHAavM WITH HOOKavTU",
  "RNED AbdLPHAagSMALL LETTER V WITH RIGHT HOOKagCAPITAL LETTER W WITH HOOKagSMALL LETTER W WITH ",
  "HOOKatV WITH CURLagCAPITAL LETTER HALF HagSMALL LETTER HALF HatTAILLESS PHIatE WITH NOTCHatTUR",
  "NED R WITH TAILatO WITH LOW RING INSIDEagLETTER SMALL CAPITAL TURNED EagSUBSCRIPT SMALL LETTER",
  " JaaMODIFIER LETTER CAPITAL VaaLATIN CAPITAL LETTER S WITH SWASH TAILavZ WITH SWASH TAILaaCOPT",
  "IC CAPITAL LETTER ALFAahSMALL LETTER ALFAahCAPITAL LETTER VIDAahSMALL LETTER VIDAahCAPITAL LET",
  "TER GAMMAahSMALL LETTER GAMMAahCAPITAL LETTER DALDAahSMALL LETTER DALDAahCAPITAL LETTER EIEahS",
  "MALL LETTER EIEahCAPITAL LETTER SOUahSMALL LETTER SOUahCAPITAL LETTER ZATAahSMALL LETTER ZATAa",
  "hCAPITAL LETTER HATEahSMALL LETTER HATEahCAPITAL LETTER THETHEahSMALL LETTER THETHEahCAPITAL L",
  "ETTER IAUDAahSMALL LETTER IAUDAahCAPITAL LETTER KAPAahSMALL LETTER KAPAahCAPITAL LETTER LAULAa",
  "hSMALL LETTER LAULAahCAPITAL LETTER MIahSMALL LETTER MIahCAPITAL LETTER NIahSMALL LETTER NIahC",
  "APITAL LETTER KSIahSMALL LETTER KSIahCAPITAL LETTER OahSMALL LETTER OahCAPITAL LETTER PIahSMAL",
  "L LETTER PIahCAPITAL LETTER ROahSMALL LETTER ROahCAPITAL LETTER SIMAahSMALL LETTER SIMAahCAPIT",
  "AL LETTER TAUahSMALL LETTER TAUahCAPITAL LETTER UAahSMALL LETTER UAahCAPITAL LETTER FIahSMALL ",
  "LETTER FIahCAPITAL LETTER KHIahSMALL LETTER KHIahCAPITAL LETTER PSIahSMALL LETTER PSIahCAPITAL",
  " LETTER OOUahSMALL LETTER OOUahCAPITAL LETTER DIALECT-P ALEFahSMALL LETTER DIALECT-P ALEFahCAP",
  "ITAL LETTER OLD COPTIC AINahSMALL LETTER OLD COPTIC AINahCAPITAL LETTER CRYPTOGRAMMIC EIEahSMA",
  "LL LETTER CRYPTOGRAMMIC EIEahCAPITAL LETTER DIALECT-P KAPAahSMALL LETTER DIALECT-P KAPAahCAPIT",
  "AL LETTER DIALECT-P NIahSMALL LETTER DIALECT-P NIahCAPITAL LETTER CRYPTOGRAMMIC NIahSMALL LETT",
  "ER CRYPTOGRAMMIC NIahCAPITAL LETTER OLD COPTIC OOUahSMALL LETTER OLD COPTIC OOUahCAPITAL LETTE",
  "R SAMPIahSMALL LETTER SAMPIahCAPITAL LETTER CROSSED SHEIahSMALL LETTER CROSSED SHEIahCAPITAL L",
  "ETTER OLD COPTIC SHEIahSMALL LETTER OLD COPTIC SHEIahCAPITAL LETTER OLD COPTIC ESHahSMALL LETT",
  "ER OLD COPTIC ESHahCAPITAL LETTER AKHMIMIC KHEIahSMALL LETTER AKHMIMIC KHEIahCAPITAL LETTER DI",
  "ALECT-P HORIahSMALL LETTER DIALECT-P HORIahCAPITAL LETTER OLD COPTIC HORIahSMALL LETTER OLD CO",
  "PTIC HORIahCAPITAL LETTER OLD COPTIC HAahSMALL LETTER OLD COPTIC HAahCAPITAL LETTER L-SHAPED H",
  "AahSMALL LETTER L-SHAPED HAahCAPITAL LETTER OLD COPTIC HEIahSMALL LETTER OLD COPTIC HEIahCAPIT",
  "AL LETTER OLD COPTIC HATahSMALL LETTER OLD COPTIC HATahCAPITAL LETTER OLD COPTIC GANGIAahSMALL",
  " LETTER OLD COPTIC GANGIAahCAPITAL LETTER OLD COPTIC DJAahSMALL LETTER OLD COPTIC DJAahCAPITAL",
  " LETTER OLD COPTIC SHIMAahSMALL LETTER OLD COPTIC SHIMAahCAPITAL LETTER OLD NUBIAN SHIMAahSMAL",
  "L LETTER OLD NUBIAN SHIMAahCAPITAL LETTER OLD NUBIAN NGIahSMALL LETTER OLD NUBIAN NGIahCAPITAL",
  " LETTER OLD NUBIAN NYIahSMALL LETTER OLD NUBIAN NYIahCAPITAL LETTER OLD NUBIAN WAUahSMALL LETT",
  "ER OLD NUBIAN WAUaiYMBOL KAIaoMI ROaoPI ROaoSTAUROSaoTAU ROaoKHI ROaoSHIMA SIMAahCAPITAL LETTE",
  "R CRYPTOGRAMMIC SHEIahSMALL LETTER CRYPTOGRAMMIC SHEIahCAPITAL LETTER CRYPTOGRAMMIC GANGIAahSM",
  "ALL LETTER CRYPTOGRAMMIC GANGIAahCOMBINING NI ABOVEarSPIRITUS ASPERbaLENISaiAPITAL LETTER BOHA",
  "IRIC KHEIahSMALL LETTER BOHAIRIC KHEI@02CF9ahOLD NUBIAN FULL STOPasDIRECT QUESTION MARKasINDIR",
  "ECT QUESTION MARKasVERSE DIVIDERahFRACTION ONE HALFaiULL STOPahMORPHOLOGICAL DIVIDERaaGEORGIAN",
  " SMALL LETTER ANawBANawGANawDONawENawVINawZENawTANawINawKANawLASawMANawNARawONawPARawZHARawRAE",
  "awSANawTARawUNawPHARawKHARawGHANawQARawSHINawCHINaxANawJILawCILaxHARawXANawJHANawHAEaxEaxIEawW",
  "EawHARaxOE@02D27awYN@02D2DawAEN@02D30aaTIFINAGH LETTER YAasBatHasGatHHaqBERBER ACADEMY YAJaqYA",
  "JasDatHatDauHarEYarAFasKaqTUAREG YAKaqYAKHHasHaqBERBER ACADEMY YAHaqTUAREG YAHaqYAHHasAasKHaqT",
  "UAREG YAKHaqYAQaqTUAREG YAQaqYIarAZHaqAHAGGAR YAZHaqTUAREG YAZHaqYALasMasNaqTUAREG YAGNazNGaqY",
  "AParUarARatRasGHaqTUAREG YAGHaqAYER YAGHaqYASatSatHasTatHasCHasTTasVasWasYasZaqTAWELLEMET YAZa",
  "qYAZZarEarO@02D6FajMODIFIER LETTER LABIALIZATION MARKajSEPARATOR MARK@02D7FajCONSONANT JOINERa",
  "aETHIOPIC SYLLABLE LOAasMOAasROAasSOAatHOAasBOAasTOAasCOAasNOAatYOAasGLOTTAL OAasZOAasDOAatDOA",
  "asJOAasTHOAasCHOAasPHOAatOAasGGWAavIavEEaw@02DA0asSSAauUauIauAAauEEavauO@02DA8asCCAauUauIauAAa",
  "uEEavauO@02DB0asZZAauUauIauAAauEEavauO@02DB8asCCHAavUavIavAAavEEawavO@02DC0asQYAauUauIauAAauEE",
  "avauO@02DC8asKYAauUauIauAAauEEavauO@02DD0asXYAauUauIauAAauEEavauO@02DD8asGYAauUauIauAAauEEavau",
  "O@02DE0aaCOMBINING CYRILLIC LETTER BEbaVEbaGHEbaDEbaZHEbbEbaKAbaELbbMbbNbaObaPEbaERbbSbaTEbaHA",
  "baTSEbaCHEbaSHAbcCHAbaFITAbaES-TEbaAbaIEbaDJERVbaMONOGRAPH UKbaYATbbUbaIOTIFIED AbaLITTLE YUSb",
  "aBIG YUSbaIOTIFIED BIG YUSaaRIGHT ANGLE SUBSTITUTION MARKERamDOTTED SUBSTITUTION MARKERaaLEFT ",
  "SUBSTITUTION BRACKETaaRIGHT SUBSTITUTION BRACKETaaLEFT DOTTED SUBSTITUTION BRACKETaaRIGHT DOTT",
  "ED SUBSTITUTION BRACKETabAISED INTERPOLATION MARKERahDOTTED INTERPOLATION MARKERaaDOTTED TRANS",
  "POSITION MARKERaaLEFT TRANSPOSITION BRACKETaaRIGHT TRANSPOSITION BRACKETabAISED SQUAREaaLEFT R",
  "AISED OMISSION BRACKETaaRIGHT RAISED OMISSION BRACKETaaEDITORIAL CORONISaaPARAGRAPHOSaaFORKED ",
  "PARAGRAPHOSaaREVERSED FORKED PARAGRAPHOSaaHYPODIASTOLEaaDOTTED OBELOSacWNWARDS ANCORAaaUPWARDS",
  " ANCORAaaDOTTED RIGHT-POINTING ANGLEacUBLE OBLIQUE HYPHENaaINVERTED INTERROBANGaaPALM BRANCHaa",
  "HYPHEN WITH DIAERESISaaTILDE WITH RING ABOVEaaLEFT LOW PARAPHRASE BRACKETaaRIGHT LOW PARAPHRAS",
  "E BRACKETaaTILDE WITH DOT ABOVEapBELOWaaLEFT VERTICAL BAR WITH QUILLaaRIGHT VERTICAL BAR WITH ",
  "QUILLaaTOP LEFT HALF BRACKETaeRIGHT HALF BRACKETaaBOTTOM LEFT HALF BRACKETahRIGHT HALF BRACKET",
  "aaLEFT SIDEWAYS U BRACKETaaRIGHT SIDEWAYS U BRACKETaaLEFT DOUBLE PARENTHESISaaRIGHT DOUBLE PAR",
  "ENTHESISaaTWO DOTS OVER ONE DOT PUNCTUATIONaaONE DOT OVER TWO DOTS PUNCTUATIONaaSQUARED FOUR D",
  "OT PUNCTUATIONaaFIVE DOT MARKaaREVERSED QUESTION MARKaaVERTICAL TILDEaaRING POINTaaWORD SEPARA",
  "TOR MIDDLE DOTaaTURNED COMMAaaRAISED DOTahCOMMAaaTURNED SEMICOLONaaDAGGER WITH LEFT GUARDamRIG",
  "HT GUARDaaTURNED DAGGERabOP HALF SECTION SIGNabWO-EM DASHabHREE-EM DASHaaSTENOGRAPHIC FULL STO",
  "PaaVERTICAL SIX DOTSaaWIGGLY VERTICAL LINEaaCAPITULUMaaDOUBLE HYPHENaaREVERSED COMMAaaDOUBLE L",
  "OW-REVERSED-9 QUOTATION MARKabASH WITH LEFT UPTURNabOUBLE SUSPENSION MARKaaINVERTED LOW KAVYKA",
  "at WITH KAVYKA ABOVEaaLOW KAVYKAak WITH DOTaaDOUBLE STACKED COMMAacTTED SOLIDUSaaTRIPLE DAGGER",
  "aaMEDIEVAL COMMAaaPARAGRAPHUS MARKabUNCTUS ELEVATUS MARKaaCORNISH VERSE DIVIDERabROSS PATTY WI",
  "TH RIGHT CROSSBARarLEFT CROSSBARaaTIRONIAN SIGN CAPITAL ETaaMEDIEVAL EXCLAMATION MARKajQUESTIO",
  "N MARKaaLEFT SQUARE BRACKET WITH STROKEaaRIGHT SQUARE BRACKET WITH STROKEaaLEFT SQUARE BRACKET",
  " WITH DOUBLE STROKEaaRIGHT SQUARE BRACKET WITH DOUBLE STROKEaaTOP HALF LEFT PARENTHESISajRIGHT",
  " PARENTHESISaaBOTTOM HALF LEFT PARENTHESISamRIGHT PARENTHESISaaOBLIQUE HYPHEN@02E80aaCJK RADIC",
  "AL REPEATamCLIFFamSECOND ONEatTWOauHREEamPERSONamBOXamTABLEamKNIFE ONEasTWOamDIVINATIONamSEALa",
  "nMALL ONEasTWOamLAME ONEarTWOasHREEarFOURamSNAKEamTHREADamSNOUT ONEasTWOamHEART ONEasTWOanANDa",
  "mRAP@02E9BamCHOKEamSUNamMOONamDEATHamMOTHERamCIVILIANamWATER ONEasTWOamFIREamPAW ONEaqTWOamSIM",
  "PLIFIED HALF TREE TRUNKamCOWamDOGamJADEamBOLT OF CLOTHamEYEamSPIRIT ONEatTWOamBAMBOOamSILKamC-",
  "SIMPLIFIED SILKamNET ONEaqTWOarHREEaqFOURamMESHamSHEEPamRAMamEWEamOLDamBRUSH ONEasTWOamMEATanO",
  "RTARamGRASS ONEasTWOatHREEamTIGERamCLOTHESamWEST ONEarTWOamC-SIMPLIFIED SEEamSIMPLIFIED HORNam",
  "HORNamC-SIMPLIFIED SPEECHbaHELLamFOOTamC-SIMPLIFIED CARTamSIMPLIFIED WALKamWALK ONEarTWOamCITY",
  "an-SIMPLIFIED GOLDamLONG ONEarTWOamC-SIMPLIFIED LONGazGATEamMOUND ONEasTWOamRAINamBLUEamC-SIMP",
  "LIFIED TANNED LEATHERazLEAFazWINDazFLYamEAT ONEaqTWOarHREEamC-SIMPLIFIED EATamHEADamC-SIMPLIFI",
  "ED HORSEamBONEamGHOSTamC-SIMPLIFIED FISHazBIRDazSALTamSIMPLIFIED WHEATaxYELLOWamC-SIMPLIFIED F",
  "ROGamJ-SIMPLIFIED EVENamC-SIMPLIFIED EVENamJ-SIMPLIFIED TOOTHamC-SIMPLIFIED TOOTHamJ-SIMPLIFIE",
  "D DRAGONamC-SIMPLIFIED DRAGONamTURTLEamJ-SIMPLIFIED TURTLEamC-SIMPLIFIED TURTLE@02F00aaKANGXI ",
  "RADICAL ONEapLINEapDOTapSLASHaqECONDapHOOKapTWOapLIDapMANapLEGSapENTERaqIGHTapDOWN BOXapCOVERa",
  "pICEapTABLEapOPEN BOXapKNIFEapPOWERapWRAPapSPOONapRIGHT OPEN BOXapHIDING ENCLOSUREapTENapDIVIN",
  "ATIONapSEALapCLIFFapPRIVATEapAGAINapMOUTHapENCLOSUREaqARTHapSCHOLARapGOar SLOWLYapEVENINGapBIG",
  "apWOMANapCHILDapROOFapINCHapSMALLapLAMEapCORPSEapSPROUTapMOUNTAINapRIVERapWORKapONESELFapTURBA",
  "NapDRYapSHORT THREADapDOTTED CLIFFapLONG STRIDEapTWO HANDSapSHOOTapBOWapSNOUTapBRISTLEapSTEPap",
  "HEARTaqALBERDapDOORapHANDapBRANCHapRAPapSCRIPTapDIPPERapAXEapSQUAREapNOTapSUNaqAYapMOONapTREEa",
  "pLACKapSTOPapDEATHapWEAPONapDO NOTapCOMPAREapFURapCLANapSTEAMapWATERapFIREapCLAWapFATHERapDOUB",
  "LE XapHALF TREE TRUNKapSLICEapFANGapCOWapDOGapPROFOUNDapJADEapMELONapTILEapSWEETapLIFEapUSEapF",
  "IELDapBOLT OF CLOTHapSICKNESSapDOTTED TENTapWHITEapSKINapDISHapEYEapSPEARapARROWapSTONEaqPIRIT",
  "apTRACKapGRAINapCAVEapSTANDapBAMBOOapRICEapSILKapJARapNETapSHEEPapFEATHERapOLDapANDapPLOWapEAR",
  "apBRUSHapMEATaqINISTERapSELFapARRIVEapMORTARapTONGUEapOPPOSEapBOATapSTOPPINGapCOLORapGRASSapTI",
  "GERapINSECTapBLOODapWALK ENCLOSUREapCLOTHESapWESTapSEEapHORNapSPEECHapVALLEYapBEANapPIGapBADGE",
  "RapSHELLapREDaqUNapFOOTapBODYapCARTapBITTERapMORNINGapWALKapCITYapWINEapDISTINGUISHapVILLAGEap",
  "GOLDapLONGapGATEapMOUNDapSLAVEaqHORT TAILED BIRDapRAINapBLUEapWRONGapFACEapLEATHERapTANNED LEA",
  "THERapLEEKapSOUNDapLEAFapWINDapFLYapEATapHEADapFRAGRANTapHORSEapBONEapTALLapHAIRapFIGHTapSACRI",
  "FICIAL WINEapCAULDRONapGHOSTapFISHapBIRDapSALTapDEERapWHEATapHEMPapYELLOWapMILLETapBLACKapEMBR",
  "OIDERYapFROGapTRIPODapDRUMapRATapNOSEapEVENapTOOTHapDRAGONapTURTLEapFLUTE@02FF0aaIDEOGRAPHIC D",
  "ESCRIPTION CHARACTER LEFT TO RIGHTbiABOVE TO BELOWbiLEFT TO MIDDLE AND RIGHTbiABOVE TO MIDDLE ",
  "AND BELOWbiFULL SURROUNDbiSURROUND FROM ABOVEbwBELOWbwLEFTbwUPPER LEFTccRIGHTbwLOWER LEFTbiOVE",
  "RLAID@03000amSPACEamCOMMAamFULL STOPaaDITTO MARKaaJAPANESE INDUSTRIAL STANDARD SYMBOLaaIDEOGRA",
  "PHIC ITERATION MARKamCLOSING MARKamNUMBER ZEROaaLEFT ANGLE BRACKETaaRIGHT ANGLE BRACKETaaLEFT ",
  "DOUBLE ANGLE BRACKETaaRIGHT DOUBLE ANGLE BRACKETaaLEFT CORNER BRACKETaaRIGHT CORNER BRACKETaaL",
  "EFT WHITE CORNER BRACKETaaRIGHT WHITE CORNER BRACKETaaLEFT BLACK LENTICULAR BRACKETaaRIGHT BLA",
  "CK LENTICULAR BRACKETaaPOSTAL MARKaaGETA MARKaaLEFT TORTOISE SHELL BRACKETaaRIGHT TORTOISE SHE",
  "LL BRACKETaaLEFT WHITE LENTICULAR BRACKETaaRIGHT WHITE LENTICULAR BRACKETaaLEFT WHITE TORTOISE",
  " SHELL BRACKETaaRIGHT WHITE TORTOISE SHELL BRACKETaaLEFT WHITE SQUARE BRACKETaaRIGHT WHITE SQU",
  "ARE BRACKETaaWAVE DASHaaREVERSED DOUBLE PRIME QUOTATION MARKaaDOUBLE PRIME QUOTATION MARKaaLOW",
  " DOUBLE PRIME QUOTATION MARKaaPOSTAL MARK FACEaaHANGZHOU NUMERAL ONEarTWOasHREEarFOURasIVEarSI",
  "XasEVENarEIGHTarNINEaaIDEOGRAPHIC LEVEL TONE MARKamRISING TONE MARKamDEPARTING TONE MARKamENTE",
  "RING TONE MARKaaHANGUL SINGLE DOT TONE MARKahDOUBLE DOT TONE MARKaaWAVY DASHaaVERTICAL KANA RE",
  "PEAT MARKavWITH VOICED SOUND MARKavMARK UPPER HALFavWITH VOICED SOUND MARK UPPER HALFavMARK LO",
  "WER HALFaaCIRCLED POSTAL MARKaaIDEOGRAPHIC TELEGRAPH LINE FEED SEPARATOR SYMBOLaaHANGZHOU NUME",
  "RAL TENasWENTYasHIRTYaaVERTICAL IDEOGRAPHIC ITERATION MARKaaMASU MARKaaPART ALTERNATION MARKaa",
  "IDEOGRAPHIC VARIATION INDICATORamHALF FILL SPACE@03041aaHIRAGANA LETTER SMALL AaqAaqSMALL IaqI",
  "aqSMALL UaqUaqSMALL EaqEaqSMALL OaqOaqKAaqGAaqKIaqGIaqKUaqGUaqKEaqGEaqKOaqGOaqSAaqZAaqSIaqZIaq",
  "SUaqZUaqSEaqZEaqSOaqZOaqTAaqDAaqTIaqDIaqSMALL TUaqTUaqDUaqTEaqDEaqTOaqDOaqNAarIarUarEarOaqHAaq",
  "BAaqPAaqHIaqBIaqPIaqHUaqBUaqPUaqHEaqBEaqPEaqHOaqBOaqPOaqMAarIarUarEarOaqSMALL YAaqYAaqSMALL YU",
  "aqYUaqSMALL YOaqYOaqRAarIarUarEarOaqSMALL WAaqWAarIarEarOaqNaqVUaqSMALL KAaxE@03099aaCOMBINING",
  " KATAKANA-HIRAGANA VOICED SOUND MARKbcSEMI-VOICED SOUND MARKaaKATAKANA-HIRAGANA VOICED SOUND M",
  "ARKasSEMI-VOICED SOUND MARKaaHIRAGANA ITERATION MARKajVOICED ITERATION MARKajDIGRAPH YORIaaKAT",
  "AKANA-HIRAGANA DOUBLE HYPHENai LETTER SMALL AaqAaqSMALL IaqIaqSMALL UaqUaqSMALL EaqEaqSMALL Oa",
  "qOaqKAaqGAaqKIaqGIaqKUaqGUaqKEaqGEaqKOaqGOaqSAaqZAaqSIaqZIaqSUaqZUaqSEaqZEaqSOaqZOaqTAaqDAaqTI",
  "aqDIaqSMALL TUaqTUaqDUaqTEaqDEaqTOaqDOaqNAarIarUarEarOaqHAaqBAaqPAaqHIaqBIaqPIaqHUaqBUaqPUaqHE",
  "aqBEaqPEaqHOaqBOaqPOaqMAarIarUarEarOaqSMALL YAaqYAaqSMALL YUaqYUaqSMALL YOaqYOaqRAarIarUarEarO",
  "aqSMALL WAaqWAarIarEarOaqNaqVUaqSMALL KAaxEaqVAarIarEarOajMIDDLE DOTai-HIRAGANA PROLONGED SOUN",
  "D MARKai ITERATION MARKajVOICED ITERATION MARKajDIGRAPH KOTO@03105aaBOPOMOFO LETTER BaqPaqMaqF",
  "aqDaqTaqNaqLaqGaqKaqHaqJaqQaqXaqZHaqCHaqSHaqRaqZaqCaqSaqAaqOaqEarHaqAIaqEIaqAUaqOUaqANaqENaqAN",
  "GaqENGarRaqIaqUaqIUaqVaqNGaqGNaqIHaqO WITH DOT ABOVEaqNN@03131aaHANGUL LETTER KIYEOKaoSSANGKIY",
  "EOKaoKIYEOK-SIOSaoNIEUNat-CIEUCauHIEUHaoTIKEUTaoSSANGTIKEUTaoRIEULat-KIYEOKauMIEUMauPIEUPauSIO",
  "SauTHIEUTHauPHIEUPHauHIEUHaoMIEUMaoPIEUPaoSSANGPIEUPaoPIEUP-SIOSaoSIOSapSANGSIOSaoIEUNGaoCIEUC",
  "aoSSANGCIEUCaoCHIEUCHaoKHIEUKHaoTHIEUTHaoPHIEUPHaoHIEUHaoAapEaoYAaqEaoEOapaoYEOaqaoOaoWAaqEaoO",
  "EaoYOaoUaoWEOaqapIaoYUaoEUaoYIaoIahFILLERahLETTER SSANGNIEUNaoNIEUN-TIKEUTauSIOSauPANSIOSaoRIE",
  "UL-KIYEOK-SIOSauTIKEUTauPIEUP-SIOSavANSIOSauYEORINHIEUHaoMIEUM-PIEUPauSIOSauPANSIOSaoKAPYEOUNM",
  "IEUMaoPIEUP-KIYEOKauTIKEUTauSIOS-KIYEOKazTIKEUTauCIEUCauTHIEUTHaoKAPYEOUNPIEUPawSSANGPIEUPaoSI",
  "OS-KIYEOKatNIEUNatTIKEUTatPIEUPatCIEUCaoPANSIOSaoSSANGIEUNGaoYESIEUNGaw-SIOSaxPANSIOSaoKAPYEOU",
  "NPHIEUPHaoSSANGHIEUHaoYEORINHIEUHapO-YAatEarIapU-YEOatarIaoARAEAatE@03190aaIDEOGRAPHIC ANNOTAT",
  "ION LINKING MARKaxREVERSE MARKaxONE MARKaxTWO MARKayHREE MARKaxFOUR MARKaxTOP MARKaxMIDDLE MAR",
  "KaxBOTTOM MARKaxFIRST MARKaxSECOND MARKaxTHIRD MARKaxFOURTH MARKaxHEAVEN MARKaxEARTH MARKaxMAN",
  " MARKaaBOPOMOFO LETTER BUaqZIaqJIaqGUaqEEarNNaqOOarNNaqIRaqANNaqINNaqUNNaqIMaqNGGaqAINNarUNNar",
  "MaqOMarNGaqINNNajFINAL LETTER PawTawKawHajLETTER GHaqLHaqZYajFINAL LETTER GajLETTER GWaqKWaqOE",
  "aqAHaaCJK STROKE TalWGalXGalBXGalSWalHZZanGamPamZWGalSZWGalHZTanZPamPWGamZWanZZalNalHalSalPalS",
  "PalDalHZamGalSZamWZamTamGalPDamZalTNalSZZamWGalHXWGamZZZGalPGalQ@031F0aaKATAKANA LETTER SMALL ",
  "KUawSIaxUawTOawNUawHAaxIaxUaxEaxOawMUawRAaxIaxUaxEaxOaaPARENTHESIZED HANGUL KIYEOKavNIEUNavTIK",
  "EUTavRIEULavMIEUMavPIEUPavSIOSavIEUNGavCIEUCawHIEUCHavKHIEUKHavTHIEUTHavPHIEUPHavHIEUHavKIYEOK",
  " AavNIEUN AavTIKEUT AavRIEUL AavMIEUM AavPIEUP AavSIOS AavIEUNG AavCIEUC AawHIEUCH AavKHIEUKH ",
  "AavTHIEUTH AavPHIEUPH AavHIEUH AavCIEUC UaoKOREAN CHARACTER OJEONbg HU@03220aoIDEOGRAPH ONEayT",
  "WOazHREEayFOURazIVEaySIXazEVENayEIGHTayNINEayTENayMOONayFIREayWATERazOODayMETALayEARTHaySUNazT",
  "OCKayHAVEaySOCIETYayNAMEaySPECIALayFINANCIALayCONGRATULATIONayLABORayREPRESENTayCALLaySTUDYazU",
  "PERVISEayENTERPRISEayRESOURCEayALLIANCEayFESTIVALayRESTaySELFayREACHaaCIRCLED IDEOGRAPH QUESTI",
  "ONasKINDERGARTENasSCHOOLasKOTOaiNUMBER TEN ON BLACK SQUAREaqWENTY ON BLACK SQUAREaqHIRTY ON BL",
  "ACK SQUAREapFORTY ON BLACK SQUAREaqIFTY ON BLACK SQUAREapSIXTY ON BLACK SQUAREaqEVENTY ON BLAC",
  "K SQUAREapEIGHTY ON BLACK SQUAREaaPARTNERSHIP SIGNaaCIRCLED NUMBER TWENTY ONEawTWOaxHREEawFOUR",
  "axIVEawSIXaxEVENawEIGHTawNINEaqHIRTYav ONEawTWOaxHREEawFOURaxIVEaiHANGUL KIYEOKapNIEUNapTIKEUT",
  "apRIEULapMIEUMapPIEUPapSIOSapIEUNGapCIEUCaqHIEUCHapKHIEUKHapTHIEUTHapPHIEUPHapHIEUHapKIYEOK Aa",
  "pNIEUN AapTIKEUT AapRIEUL AapMIEUM AapPIEUP AapSIOS AapIEUNG AapCIEUC AaqHIEUCH AapKHIEUKH Aap",
  "THIEUTH AapPHIEUPH AapHIEUH AaiKOREAN CHARACTER CHAMKOazJUEUIaiHANGUL IEUNG UaaKOREAN STANDARD",
  " SYMBOLaaCIRCLED IDEOGRAPH ONEasTWOatHREEasFOURatIVEasSIXatEVENasEIGHTasNINEasTENasMOONasFIREa",
  "sWATERatOODasMETALasEARTHasSUNatTOCKasHAVEasSOCIETYasNAMEasSPECIALasFINANCIALasCONGRATULATIONa",
  "sLABORasSECRETasMALEasFEMALEasSUITABLEasEXCELLENTasPRINTasATTENTIONasITEMasRESTasCOPYauRRECTas",
  "HIGHasCENTREasLOWatEFTasRIGHTasMEDICINEasRELIGIONasSTUDYatUPERVISEasENTERPRISEasRESOURCEasALLI",
  "ANCEasNIGHTaiNUMBER THIRTY SIXaxEVENawEIGHTawNINEapFORTYau ONEavTWOawHREEavFOURawIVEavSIXawEVE",
  "NavEIGHTavNINEaqIFTYaaIDEOGRAPHIC TELEGRAPH SYMBOL FOR JANUARYbhFEBRUARYbhMARCHbhAPRILbhMAYbhJ",
  "UNEbjLYbhAUGUSTbhSEPTEMBERbhOCTOBERbhNOVEMBERbhDECEMBERaaSQUARE HGahERGaiVaaLIMITED LIABILITY ",
  "SIGNaaCIRCLED KATAKANA AarIarUarEarOarKAasIasUasEasOarSAasIasUasEasOarTAasIasUasEasOarNAasIasU",
  "asEasOarHAasIasUasEasOarMAasIasUasEasOarYAasUasOarRAasIasUasEasOarWAasIasEasOaaSQUARE ERA NAME",
  " REIWAahAPAATOaiRUHUAaiNPEAaiARUahININGUajTIahUONahESUKUUDOaiEKAAahONSUaiOMUahKAIRIajRATTOakOR",
  "IIahGARONajNMAaiIGAajNIIahKYURIIahGIRUDAAahKIROalGURAMUalMEETORUalWATTOahGURAMUanTONahKURUZEIR",
  "OakOONEaiEESUaiORUNAajOPOahSAIKURUajNTIIMUaiIRINGUaiENTIalOahDAASUaiESIaiORUahTONahNANOaiOTTOa",
  "hHAITUahPAASENTOakTUahBAARERUahPIASUTORUajKURUakOahBIRUahHUARADDOajIITOahBUSSYERUahHURANaiEKUT",
  "AARUahPESOajNIHIahHERUTUahPENSUajEZIahBEETAahPOINTOahBORUTOahHONahPONDOahHOORUakNahMAIKUROakRU",
  "ajHHAajRUKUajNSYONaiIKURONajRIalBAARUaiEGAalTONajETORUahYAADOakRUaiUANahRITTORUajRAaiUPIIajUBU",
  "RUaiEMUajNTOGENahWATTOaaIDEOGRAPHIC TELEGRAPH SYMBOL FOR HOUR ZERObmONEbmTWObnHREEbmFOURbnIVEb",
  "mSIXbnEVENbmEIGHTbmNINEbmTENbmELEVENbmTWELVEbnHIRTEENbmFOURTEENbnIFTEENbmSIXTEENbnEVENTEENbmEI",
  "GHTEENbmNINETEENbmTWENTYbs-ONEbtTWObuHREEbtFOURaaSQUARE HPAahDAahAUahBARahOVahPCahDMaj SQUARED",
  "akCUBEDahIUahERA NAME HEISEIaqSYOUWAaqTAISYOUaqMEIZIahCORPORATIONahPA AMPSahNAahMU AaiAahKAaiB",
  "ahMBahGBahCALahKCALahPFahNFahMU FakGaiGahKGahHZahKHZahMHZahGHZahTHZahMU LaiLahDLahKLahFMahNMah",
  "MU MaiMahCMahKMahMM SQUAREDahCM SQUAREDahM SQUAREDahKM SQUAREDahMM CUBEDahCM CUBEDahM CUBEDahK",
  "M CUBEDahM OVER Sap SQUAREDahPAahKPAahMPAahGPAahRADak OVER Sar SQUAREDahPSahNSahMU SaiSahPVahN",
  "VahMU VaiVahKVahMV MEGAahPWahNWahMU WaiWahKWahMW MEGAahK OHMahM OHMahAMahBQahCCaiDai OVER KGai",
  "OahDBahGYahHAaiPahINahKKaiM CAPITALaiTahLMaiNaiOGaiXahMB SMALLaiILaiOLahPHaiMaiPMaiRahSRaiVahW",
  "BahV OVER MahA OVER MaaIDEOGRAPHIC TELEGRAPH SYMBOL FOR DAY ONEblTWObmHREEblFOURbmIVEblSIXbmEV",
  "ENblEIGHTblNINEblTENblELEVENblTWELVEbmHIRTEENblFOURTEENbmIFTEENblSIXTEENbmEVENTEENblEIGHTEENbl",
  "NINETEENblTWENTYbr-ONEbsTWObtHREEbsFOURbtIVEbsSIXbtEVENbsEIGHTbsNINEbmHIRTYbr-ONEaaSQUARE GAL@",
  "04DC0aaHEXAGRAM FOR THE CREATIVE HEAVENarRECEPTIVE EARTHanDIFFICULTY AT THE BEGINNINGanYOUTHFU",
  "L FOLLYanWAITINGanCONFLICTanTHE ARMYanHOLDING TOGETHERanSMALL TAMINGanTREADINGanPEACEanSTANDST",
  "ILLanFELLOWSHIPanGREAT POSSESSIONanMODESTYanENTHUSIASManFOLLOWINGanWORK ON THE DECAYEDanAPPROA",
  "CHanCONTEMPLATIONanBITING THROUGHanGRACEanSPLITTING APARTanRETURNanINNOCENCEanGREAT TAMINGanMO",
  "UTH CORNERSanGREAT PREPONDERANCEanTHE ABYSMAL WATERarCLINGING FIREanINFLUENCEanDURATIONanRETRE",
  "ATanGREAT POWERanPROGRESSanDARKENING OF THE LIGHTanTHE FAMILYanOPPOSITIONaoBSTRUCTIONanDELIVER",
  "ANCEapCREASEanINCREASEanBREAKTHROUGHanCOMING TO MEETanGATHERING TOGETHERanPUSHING UPWARDanOPPR",
  "ESSIONanTHE WELLanREVOLUTIONanTHE CAULDRONarAROUSING THUNDERarKEEPING STILL MOUNTAINanDEVELOPM",
  "ENTanTHE MARRYING MAIDENanABUNDANCEanTHE WANDERERarGENTLE WINDarJOYOUS LAKEanDISPERSIONanLIMIT",
  "ATIONanINNER TRUTHanSMALL PREPONDERANCEanAFTER COMPLETIONanBEFORE COMPLETION"]

end EntityGen.Text.CharName
