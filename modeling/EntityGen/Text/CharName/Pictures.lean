/-! Names of characters: pictures and variation marks. -/

namespace EntityGen.Text.CharName

/-- Names by code point, in the form that `CharName.find?` reads. -/
def picturesNames : List String := [
  "@1F000aaMAHJONG TILE EAST WINDanSOUTH WINDanWEST WINDanNORTH WINDanRED DRAGONanGREEN DRAGONanW",
  "HITE DRAGONanONE OF CHARACTERSanTWO OF CHARACTERSaoHREE OF CHARACTERSanFOUR OF CHARACTERSaoIVE",
  " OF CHARACTERSanSIX OF CHARACTERSaoEVEN OF CHARACTERSanEIGHT OF CHARACTERSanNINE OF CHARACTERS",
  "anONE OF BAMBOOSanTWO OF BAMBOOSaoHREE OF BAMBOOSanFOUR OF BAMBOOSaoIVE OF BAMBOOSanSIX OF BAM",
  "BOOSaoEVEN OF BAMBOOSanEIGHT OF BAMBOOSanNINE OF BAMBOOSanONE OF CIRCLESanTWO OF CIRCLESaoHREE",
  " OF CIRCLESanFOUR OF CIRCLESaoIVE OF CIRCLESanSIX OF CIRCLESaoEVEN OF CIRCLESanEIGHT OF CIRCLE",
  "SanNINE OF CIRCLESanPLUManORCHIDanBAMBOOanCHRYSANTHEMUManSPRINGaoUMMERanAUTUMNanWINTERanJOKERa",
  "nBACK@1F030aaDOMINO TILE HORIZONTAL BACKaw-00-00bb1bb2bb3bb4bb5bb6ay1-00bb1bb2bb3bb4bb5bb6ay2-",
  "00bb1bb2bb3bb4bb5bb6ay3-00bb1bb2bb3bb4bb5bb6ay4-00bb1bb2bb3bb4bb5bb6ay5-00bb1bb2bb3bb4bb5bb6ay",
  "6-00bb1bb2bb3bb4bb5bb6amVERTICAL BACKau-00-00az1az2az3az4az5az6aw1-00az1az2az3az4az5az6aw2-00a",
  "z1az2az3az4az5az6aw3-00az1az2az3az4az5az6aw4-00az1az2az3az4az5az6aw5-00az1az2az3az4az5az6aw6-0",
  "0az1az2az3az4az5az6@1F0A0aaPLAYING CARD BACKanACE OF SPADESanTWO OF SPADESaoHREE OF SPADESanFO",
  "UR OF SPADESaoIVE OF SPADESanSIX OF SPADESaoEVEN OF SPADESanEIGHT OF SPADESanNINE OF SPADESanT",
  "EN OF SPADESanJACK OF SPADESanKNIGHT OF SPADESanQUEEN OF SPADESanKING OF SPADES@1F0B1anACE OF ",
  "HEARTSanTWO OF HEARTSaoHREE OF HEARTSanFOUR OF HEARTSaoIVE OF HEARTSanSIX OF HEARTSaoEVEN OF H",
  "EARTSanEIGHT OF HEARTSanNINE OF HEARTSanTEN OF HEARTSanJACK OF HEARTSanKNIGHT OF HEARTSanQUEEN",
  " OF HEARTSanKING OF HEARTSanRED JOKER@1F0C1anACE OF DIAMONDSanTWO OF DIAMONDSaoHREE OF DIAMOND",
  "SanFOUR OF DIAMONDSaoIVE OF DIAMONDSanSIX OF DIAMONDSaoEVEN OF DIAMONDSanEIGHT OF DIAMONDSanNI",
  "NE OF DIAMONDSanTEN OF DIAMONDSanJACK OF DIAMONDSanKNIGHT OF DIAMONDSanQUEEN OF DIAMONDSanKING",
  " OF DIAMONDSanBLACK JOKER@1F0D1anACE OF CLUBSanTWO OF CLUBSaoHREE OF CLUBSanFOUR OF CLUBSaoIVE",
  " OF CLUBSanSIX OF CLUBSaoEVEN OF CLUBSanEIGHT OF CLUBSanNINE OF CLUBSanTEN OF CLUBSanJACK OF C",
  "LUBSanKNIGHT OF CLUBSanQUEEN OF CLUBSanKING OF CLUBSanWHITE JOKERanFOOLanTRUMP-1at2at3at4at5at",
  "6at7at8at9at10au1au2au3au4au5au6au7au8au9at20au1@1F100aaDIGIT ZERO FULL STOPalCOMMAagONE COMMA",
  "agTWO COMMAahHREE COMMAagFOUR COMMAahIVE COMMAagSIX COMMAahEVEN COMMAagEIGHT COMMAagNINE COMMA",
  "acNGBAT CIRCLED SANS-SERIF DIGIT ZEROaiNEGATIVE CIRCLED SANS-SERIF DIGIT ZEROaaCIRCLED ZERO WI",
  "TH SLASHaiANTICLOCKWISE ARROWaiDOLLAR SIGN WITH OVERLAID BACKSLASHaaPARENTHESIZED LATIN CAPITA",
  "L LETTER AbjBbjCbjDbjEbjFbjGbjHbjIbjJbjKbjLbjMbjNbjObjPbjQbjRbjSbjTbjUbjVbjWbjXbjYbjZaaTORTOIS",
  "E SHELL BRACKETED LATIN CAPITAL LETTER SaaCIRCLED ITALIC LATIN CAPITAL LETTER CbkRaiCDaiWZabOP",
  "YLEFT SYMBOLaaSQUARED LATIN CAPITAL LETTER AbdBbdCbdDbdEbdFbdGbdHbdIbdJbdKbdLbdMbdNbdObdPbdQbd",
  "RbdSbdTbdUbdVbdWbdXbdYbdZaiHVaiMVaiSDajSaiPPVaiWCaaNEGATIVE CIRCLED LATIN CAPITAL LETTER AbmBb",
  "mCbmDbmEbmFbmGbmHbmIbmJbmKbmLbmMbmNbmObmPbmQbmRbmSbmTbmUbmVbmWbmXbmYbmZaaRAISED MC SIGNaiD SIG",
  "NaiR SIGNaaCIRCLED CCaj WITH OVERLAID BACKSLASHaiHUMAN FIGUREaaNEGATIVE SQUARED LATIN CAPITAL ",
  "LETTER AbmBbmCbmDbmEbmFbmGbmHbmIbmJbmKbmLbmMbmNbmObmPbmQbmRbmSbmTbmUbmVbmWbmXbmYbmZaaCROSSED N",
  "EGATIVE SQUARED LATIN CAPITAL LETTER PaaNEGATIVE SQUARED ICarPAarSAarABarWCaaSQUARE DJagD CLaj",
  "OOLaiFREEaiIDaiNEWajGaiOKaiSOSaiUP WITH EXCLAMATION MARKaiVSaiTHREE DaiSECOND SCREENaiTWO KaiF",
  "OUR KaiEIGHT KaiFIVE POINT ONEaiSEVEN POINT ONEaiTWENTY-TWO POINT TWOaiSIXTY PaiONE HUNDRED TW",
  "ENTY PaiLATIN SMALL LETTER DaiHCajDRajI-RESaiLOSSLESSaiSHVaiUHDaiVODaaMASK WORK SYMBOL@1F1E6aa",
  "REGIONAL INDICATOR SYMBOL LETTER AbhBbhCbhDbhEbhFbhGbhHbhIbhJbhKbhLbhMbhNbhObhPbhQbhRbhSbhTbhU",
  "bhVbhWbhXbhYbhZaaSQUARE HIRAGANA HOKAagD KATAKANA KOKOarSA@1F210aiCJK UNIFIED IDEOGRAPH-624Bbe",
  "5B57bf3CCaiKATAKANA DEaiCJK UNIFIED IDEOGRAPH-4E8Cbe591Abe89E3be5929be4EA4be6620be7121be6599be",
  "524DbfF8Cbf18Dbe65B0be521Dbe7D42bf51Fbe8CA9be58F0bf439be6F14bf295bf355be4E00bh9be904Abe5DE6be4",
  "E2Dbe53F3be6307be8D70be6253be7981bfA7Abe5408be6E80bf709bh8be7533be5272bf5B6be914D@1F240aaTORTO",
  "ISE SHELL BRACKETED CJK UNIFIED IDEOGRAPH-672Cbv4E09bx8Cbv5B89bv70B9bv6253bv76D7bv52DDbv6557@1",
  "F250aaCIRCLED IDEOGRAPH ADVANTAGEatCCEPT@1F260aaROUNDED SYMBOL FOR FUatLUatSHOUatXIatSHUANGXIa",
  "tCAI@1F300aaCYCLONEaaFOGGYaaCLOSED UMBRELLAaaNIGHT WITH STARSaaSUNRISE OVER MOUNTAINSahaaCITYS",
  "CAPE AT DUSKaaSUNSET OVER BUILDINGSaaRAINBOWaaBRIDGE AT NIGHTaaWATER WAVEaaVOLCANOaaMILKY WAYa",
  "aEARTH GLOBE EUROPE-AFRICAamAMERICASanSIA-AUSTRALIAaaGLOBE WITH MERIDIANSaaNEW MOON SYMBOLaaWA",
  "XING CRESCENT MOON SYMBOLaaFIRST QUARTER MOON SYMBOLaaWAXING GIBBOUS MOON SYMBOLaaFULL MOON SY",
  "MBOLaaWANING GIBBOUS MOON SYMBOLaaLAST QUARTER MOON SYMBOLaaWANING CRESCENT MOON SYMBOLaaCRESC",
  "ENT MOONaaNEW MOON WITH FACEaaFIRST QUARTER MOON WITH FACEaaLAST QUARTER MOON WITH FACEaaFULL ",
  "MOON WITH FACEaaSUN WITH FACEaaGLOWING STARaaSHOOTING STARaaTHERMOMETERaaBLACK DROPLETaaWHITE ",
  "SUNaj WITH SMALL CLOUDakBEHIND CLOUDaw WITH RAINaaCLOUD WITH RAINalSNOWalLIGHTNINGalTORNADOaaF",
  "OGaaWIND BLOWING FACEaaHOT DOGaaTACOaaBURRITOaaCHESTNUTaaSEEDLINGaaEVERGREEN TREEaaDECIDUOUS T",
  "REEaaPALM TREEaaCACTUSaaHOT PEPPERaaTULIPaaCHERRY BLOSSOMaaROSEaaHIBISCUSaaSUNFLOWERaaBLOSSOMa",
  "aEAR OF MAIZEahRICEaaHERBaaFOUR LEAF CLOVERaaMAPLE LEAFaaFALLEN LEAFaaLEAF FLUTTERING IN WINDa",
  "aMUSHROOMaaTOMATOaaAUBERGINEaaGRAPESaaMELONaaWATERMELONaaTANGERINEaaLEMONaaBANANAaaPINEAPPLEaa",
  "RED APPLEaaGREEN APPLEaaPEARadCHaaCHERRIESaaSTRAWBERRYaaHAMBURGERaaSLICE OF PIZZAaaMEAT ON BON",
  "EaaPOULTRY LEGaaRICE CRACKERafBALLaaCOOKED RICEabURRY AND RICEaaSTEAMING BOWLabPAGHETTIaaBREAD",
  "aaFRENCH FRIESaaROASTED SWEET POTATOaaDANGOaaODENaaSUSHIaaFRIED SHRIMPabISH CAKE WITH SWIRL DE",
  "SIGNaaSOFT ICE CREAMabHAVED ICEaaICE CREAMaaDOUGHNUTaaCOOKIEabHOCOLATE BARabANDYaaLOLLIPOPaaCU",
  "STARDaaHONEY POTaaSHORTCAKEaaBENTO BOXaaPOT OF FOODaaCOOKINGaaFORK AND KNIFEaaTEACUP WITHOUT H",
  "ANDLEaaSAKE BOTTLE AND CUPaaWINE GLASSaaCOCKTAIL GLASSaaTROPICAL DRINKaaBEER MUGaaCLINKING BEE",
  "R MUGSaaBABY BOTTLEaaFORK AND KNIFE WITH PLATEaaBOTTLE WITH POPPING CORKaaPOPCORNaaRIBBONaaWRA",
  "PPED PRESENTaaBIRTHDAY CAKEaaJACK-O-LANTERNaaCHRISTMAS TREEaaFATHER CHRISTMASabIREWORKSai SPAR",
  "KLERaaBALLOONaaPARTY POPPERaaCONFETTI BALLaaTANABATA TREEaaCROSSED FLAGSaaPINE DECORATIONaaJAP",
  "ANESE DOLLSaaCARP STREAMERaaWIND CHIMEaaMOON VIEWING CEREMONYaaSCHOOL SATCHELaaGRADUATION CAPa",
  "aHEART WITH TIP ON THE LEFTaaBOUQUET OF FLOWERSaaMILITARY MEDALaaREMINDER RIBBONaaMUSICAL KEYB",
  "OARD WITH JACKSaaSTUDIO MICROPHONEaaLEVEL SLIDERaaCONTROL KNOBSaaBEAMED ASCENDING MUSICAL NOTE",
  "SahDESCENDING MUSICAL NOTESaaFILM FRAMESaaADMISSION TICKETSaaCAROUSEL HORSEaaFERRIS WHEELaaROL",
  "LER COASTERaaFISHING POLE AND FISHaaMICROPHONEabOVIE CAMERAaaCINEMAaaHEADPHONEaaARTIST PALETTE",
  "aaTOP HATaaCIRCUS TENTaaTICKETaaCLAPPER BOARDaaPERFORMING ARTSaaVIDEO GAMEaaDIRECT HITaaSLOT M",
  "ACHINEaaBILLIARDSaaGAME DIEaaBOWLINGaaFLOWER PLAYING CARDSaaMUSICAL NOTEacLTIPLE MUSICAL NOTES",
  "aaSAXOPHONEaaGUITARaaMUSICAL KEYBOARDaaTRUMPETaaVIOLINaaMUSICAL SCOREaaRUNNING SHIRT WITH SASH",
  "aaTENNIS RACQUET AND BALLaaSKI AND SKI BOOTaaBASKETBALL AND HOOPaaCHEQUERED FLAGaaSNOWBOARDERa",
  "aRUNNERaaSURFERabPORTS MEDALaaTROPHYaaHORSE RACINGaaAMERICAN FOOTBALLaaRUGBY FOOTBALLaaSWIMMER",
  "aaWEIGHT LIFTERaaGOLFERaaRACING MOTORCYCLEahCARaaCRICKET BAT AND BALLaaVOLLEYBALLaaFIELD HOCKE",
  "Y STICK AND BALLaaICE HOCKEY STICK AND PUCKaaTABLE TENNIS PADDLE AND BALLaaSNOW CAPPED MOUNTAI",
  "NaaCAMPINGaaBEACH WITH UMBRELLAabUILDING CONSTRUCTIONaaHOUSE BUILDINGSaaCITYSCAPEaaDERELICT HO",
  "USE BUILDINGaaCLASSICAL BUILDINGaaDESERTag ISLANDaaNATIONAL PARKaaSTADIUMaaHOUSE BUILDINGagWIT",
  "H GARDENaaOFFICE BUILDINGaaJAPANESE POST OFFICEaaEUROPEAN POST OFFICEaaHOSPITALaaBANKaaAUTOMAT",
  "ED TELLER MACHINEaaHOTELaaLOVE HOTELaaCONVENIENCE STOREaaSCHOOLaaDEPARTMENT STOREaaFACTORYaaIZ",
  "AKAYA LANTERNaaJAPANESE CASTLEaaEUROPEAN CASTLEaaWHITE PENNANTaaBLACK PENNANTaaWAVING WHITE FL",
  "AGahBLACK FLAGaaROSETTEaaBLACK ROSETTEaaLABELaaBADMINTON RACQUET AND SHUTTLECOCKabOW AND ARROW",
  "aaAMPHORAaaEMOJI MODIFIER FITZPATRICK TYPE-1-2bg3bg4bg5bg6aaRATaaMOUSEaaOXaaWATER BUFFALOaaCOW",
  "aaTIGERaaLEOPARDaaRABBITaaCATaaDRAGONaaCROCODILEaaWHALEaaSNAILadKEaaHORSEaaRAMaaGOATaaSHEEPaaM",
  "ONKEYaaROOSTERaaCHICKENaaDOGaaPIGaaBOARaaELEPHANTaaOCTOPUSaaSPIRAL SHELLaaBUGaaANTaaHONEYBEEaa",
  "LADY BEETLEaaFISHaaTROPICAL FISHaaBLOWFISHaaTURTLEaaHATCHING CHICKaaBABY CHICKaaFRONT-FACING B",
  "ABY CHICKaaBIRDaaPENGUINaaKOALAaaPOODLEaaDROMEDARY CAMELaaBACTRIAN CAMELaaDOLPHINaaMOUSE FACEa",
  "aCOW FACEaaTIGER FACEaaRABBIT FACEaaCAT FACEaaDRAGON FACEaaSPOUTING WHALEaaHORSE FACEaaMONKEY ",
  "FACEaaDOG FACEaaPIG FACEaaFROG FACEaaHAMSTER FACEaaWOLF FACEaaBEAR FACEaaPANDA FACEabIG NOSEab",
  "AW PRINTSaaCHIPMUNKaaEYESadabARaaNOSEaaMOUTHaaTONGUEaaWHITE UP POINTING BACKHAND INDEXagDOWN P",
  "OINTING BACKHAND INDEXagLEFT POINTING BACKHAND INDEXagRIGHT POINTING BACKHAND INDEXaaFISTED HA",
  "ND SIGNaaWAVING HAND SIGNaaOK HAND SIGNaaTHUMBS UP SIGNahDOWN SIGNaaCLAPPING HANDS SIGNaaOPEN ",
  "HANDS SIGNaaCROWNaaWOMANS HATaaEYEGLASSESaaNECKTIEaaT-SHIRTaaJEANSaaDRESSaaKIMONOaaBIKINIaaWOM",
  "ANS CLOTHESaaPURSEaaHANDBAGaaPOUCHaaMANS SHOEaaATHLETIC SHOEaaHIGH-HEELED SHOEaaWOMANS SANDALa",
  "hBOOTSaaFOOTPRINTSaaBUST IN SILHOUETTEaeS IN SILHOUETTEabOYaaGIRLaaMANaaWOMANaaFAMILYaaMAN AND",
  " WOMAN HOLDING HANDSaaTWO MEN HOLDING HANDSaeWOMEN HOLDING HANDSaaPOLICE OFFICERaaWOMAN WITH B",
  "UNNY EARSaaBRIDE WITH VEILaaPERSON WITH BLOND HAIRaaMAN WITH GUA PI MAOajTURBANaaOLDER MANagWO",
  "MANaaBABYaaCONSTRUCTION WORKERaaPRINCESSaaJAPANESE OGREajGOBLINaaGHOSTaaBABY ANGELaaEXTRATERRE",
  "STRIAL ALIENaaALIEN MONSTERaaIMPaaSKULLaaINFORMATION DESK PERSONaaGUARDSMANaaDANCERaaLIPSTICKa",
  "aNAIL POLISHaaFACE MASSAGEaaHAIRCUTaaBARBER POLEaaSYRINGEaaPILLaaKISS MARKaaLOVE LETTERaaRINGa",
  "aGEM STONEaaKISSaaBOUQUETaaCOUPLE WITH HEARTaaWEDDINGaaBEATING HEARTabROKEN HEARTaaTWO HEARTSa",
  "aSPARKLING HEARTaaGROWING HEARTaaHEART WITH ARROWaaBLUE HEARTaaGREEN HEARTaaYELLOW HEARTaaPURP",
  "LE HEARTaaHEART WITH RIBBONaaREVOLVING HEARTSaaHEART DECORATIONaaDIAMOND SHAPE WITH A DOT INSI",
  "DEaaELECTRIC LIGHT BULBaaANGER SYMBOLaaBOMBaaSLEEPING SYMBOLaaCOLLISION SYMBOLaaSPLASHING SWEA",
  "T SYMBOLaaDROPLETabASH SYMBOLaaPILE OF POOaaFLEXED BICEPSaaDIZZY SYMBOLaaSPEECH BALLOONaaTHOUG",
  "HT BALLOONaaWHITE FLOWERaaHUNDRED POINTS SYMBOLaaMONEY BAGaaCURRENCY EXCHANGEaaHEAVY DOLLAR SI",
  "GNaaCREDIT CARDaaBANKNOTE WITH YEN SIGNaoDOLLAR SIGNaoEURO SIGNaoPOUND SIGNaaMONEY WITH WINGSa",
  "aCHART WITH UPWARDS TREND AND YEN SIGNaaSEATaaPERSONAL COMPUTERaaBRIEFCASEaaMINIDISCaaFLOPPY D",
  "ISKaaOPTICAL DISCaaDVDaaFILE FOLDERaaOPEN FILE FOLDERaaPAGE WITH CURLafFACING UPaaCALENDARaaTE",
  "AR-OFF CALENDARaaCARD INDEXabHART WITH UPWARDS TRENDalDOWNWARDS TRENDaaBAR CHARTaaCLIPBOARDaaP",
  "USHPINaaROUND PUSHPINaaPAPERCLIPaaSTRAIGHT RULERaaTRIANGULAR RULERaaBOOKMARK TABSaaLEDGERaaNOT",
  "EBOOKai WITH DECORATIVE COVERaaCLOSED BOOKaaOPEN BOOKaaGREEN BOOKaaBLUE BOOKaaORANGE BOOKaaBOO",
  "KSaaNAME BADGEaaSCROLLaaMEMOaaTELEPHONE RECEIVERaaPAGERaaFAX MACHINEaaSATELLITE ANTENNAaaPUBLI",
  "C ADDRESS LOUDSPEAKERaaCHEERING MEGAPHONEaaOUTBOX TRAYaaINBOX TRAYaaPACKAGEaaE-MAIL SYMBOLaaIN",
  "COMING ENVELOPEaaENVELOPE WITH DOWNWARDS ARROW ABOVEaaCLOSED MAILBOX WITH LOWERED FLAGauRAISED",
  " FLAGaaOPEN MAILBOX WITH RAISED FLAGasLOWERED FLAGaaPOSTBOXaeAL HORNaaNEWSPAPERaaMOBILE PHONEa",
  "m WITH RIGHTWARDS ARROW AT LEFTaaVIBRATION MODEaaMOBILE PHONE OFFaaNO MOBILE PHONESaaANTENNA W",
  "ITH BARSaaCAMERAag WITH FLASHaaVIDEO CAMERAaaTELEVISIONaaRADIOaaVIDEOCASSETTEaaFILM PROJECTORa",
  "aPORTABLE STEREOabRAYER BEADSaaTWISTED RIGHTWARDS ARROWSaaCLOCKWISE RIGHTWARDS AND LEFTWARDS O",
  "PEN CIRCLE ARROWScb WITH CIRCLED ONE OVERLAYakDOWNWARDS AND UPWARDS OPEN CIRCLE ARROWSaaANTICL",
  "OCKWISE DOWNWARDS AND UPWARDS OPEN CIRCLE ARROWSaaLOW BRIGHTNESS SYMBOLaaHIGH BRIGHTNESS SYMBO",
  "LaaSPEAKER WITH CANCELLATION STROKEahah WITH ONE SOUND WAVEanTHREE SOUND WAVESaaBATTERYaaELECT",
  "RIC PLUGaaLEFT-POINTING MAGNIFYING GLASSaaRIGHT-POINTING MAGNIFYING GLASSaaLOCK WITH INK PENaa",
  "CLOSED LOCK WITH KEYaaKEYaaLOCKaaOPEN LOCKaaBELLae WITH CANCELLATION STROKEabOOKMARKaaLINK SYM",
  "BOLaaRADIO BUTTONaaBACK WITH LEFTWARDS ARROW ABOVEaaEND WITH LEFTWARDS ARROW ABOVEaaON WITH EX",
  "CLAMATION MARK WITH LEFT RIGHT ARROW ABOVEaaSOON WITH RIGHTWARDS ARROW ABOVEaaTOP WITH UPWARDS",
  " ARROW ABOVEaaNO ONE UNDER EIGHTEEN SYMBOLaaKEYCAP TENaaINPUT SYMBOL FOR LATIN CAPITAL LETTERS",
  "axSMALL LETTERSarNUMBERSarSYMBOLSarLATIN LETTERSaaFIREaaELECTRIC TORCHaaWRENCHaaHAMMERaaNUT AN",
  "D BOLTaaHOCHOaaPISTOLaaMICROSCOPEaaTELESCOPEaaCRYSTAL BALLaaSIX POINTED STAR WITH MIDDLE DOTaa",
  "JAPANESE SYMBOL FOR BEGINNERaaTRIDENT EMBLEMaaBLACK SQUARE BUTTONaaWHITE SQUARE BUTTONaaLARGE ",
  "RED CIRCLEagBLUE CIRCLEagORANGE DIAMONDagBLUE DIAMONDaaSMALL ORANGE DIAMONDagBLUE DIAMONDaaUP-",
  "POINTING RED TRIANGLEaaDOWN-POINTING RED TRIANGLEaaUP-POINTING SMALL RED TRIANGLEaaDOWN-POINTI",
  "NG SMALL RED TRIANGLEaaLOWER RIGHT SHADOWED WHITE CIRCLEaaUPPER RIGHT SHADOWED WHITE CIRCLEaaC",
  "IRCLED CROSS POMMEEabROSS POMMEE WITH HALF-CIRCLE BELOWamaaNOTCHED LEFT SEMICIRCLE WITH THREE ",
  "DOTSaiRIGHT SEMICIRCLE WITH THREE DOTSaaSYMBOL FOR MARKS CHAPTERaaWHITE LATIN CROSSaaHEAVY LAT",
  "IN CROSSaaCELTIC CROSSaaOM SYMBOLaaDOVE OF PEACEaaKAABAaaMOSQUEaaSYNAGOGUEaaMENORAH WITH NINE ",
  "BRANCHESaaBOWL OF HYGIEIAaaCLOCK FACE ONE OCLOCKalTWO OCLOCKamHREE OCLOCKalFOUR OCLOCKamIVE OC",
  "LOCKalSIX OCLOCKamEVEN OCLOCKalEIGHT OCLOCKalNINE OCLOCKalTEN OCLOCKalELEVEN OCLOCKalTWELVE OC",
  "LOCKalONE-THIRTYalTWO-THIRTYamHREE-THIRTYalFOUR-THIRTYamIVE-THIRTYalSIX-THIRTYamEVEN-THIRTYalE",
  "IGHT-THIRTYalNINE-THIRTYalTEN-THIRTYalELEVEN-THIRTYalTWELVE-THIRTYaaRIGHT SPEAKERan WITH ONE S",
  "OUND WAVEatTHREE SOUND WAVESaaBULLHORNai WITH SOUND WAVESaaRINGING BELLaaBOOKaaCANDLEaaMANTELP",
  "IECE CLOCKaaBLACK SKULL AND CROSSBONESaaNO PIRACYaaHOLEaaMAN IN BUSINESS SUIT LEVITATINGaaSLEU",
  "TH OR SPYaaDARK SUNGLASSESaaSPIDERag WEBaaJOYSTICKaaMAN DANCINGaaLEFT HAND TELEPHONE RECEIVERa",
  "aTELEPHONE RECEIVER WITH PAGEaaRIGHT HAND TELEPHONE RECEIVERaaWHITE TOUCHTONE TELEPHONEaaBLACK",
  " TOUCHTONE TELEPHONEaaTELEPHONE ON TOP OF MODEMaaCLAMSHELL MOBILE PHONEaaBACK OF ENVELOPEaaSTA",
  "MPED ENVELOPEaaENVELOPE WITH LIGHTNINGaaFLYING ENVELOPEaaPEN OVER STAMPED ENVELOPEaaLINKED PAP",
  "ERCLIPSaaBLACK PUSHPINaaLOWER LEFT PENCILalBALLPOINT PENalFOUNTAIN PENalPAINTBRUSHalCRAYONabEF",
  "T WRITING HANDaaTURNED OK HAND SIGNaaRAISED HAND WITH FINGERS SPLAYEDabEVERSED RAISED HAND WIT",
  "H FINGERS SPLAYEDajTHUMBS UP SIGNaqDOWN SIGNajVICTORY HANDajHAND WITH MIDDLE FINGER EXTENDEDab",
  "AISED HAND WITH PART BETWEEN MIDDLE AND RING FINGERSaaWHITE DOWN POINTING LEFT HAND INDEXaaSID",
  "EWAYS WHITE LEFT POINTING INDEXapRIGHT POINTING INDEXajBLACK LEFT POINTING INDEXapRIGHT POINTI",
  "NG INDEXaaBLACK LEFT POINTING BACKHAND INDEXagRIGHT POINTING BACKHAND INDEXaaSIDEWAYS WHITE UP",
  " POINTING INDEXapDOWN POINTING INDEXajBLACK UP POINTING INDEXapDOWN POINTING INDEXaaBLACK UP P",
  "OINTING BACKHAND INDEXagDOWN POINTING BACKHAND INDEXagHEARTaaDESKTOP COMPUTERaaKEYBOARD AND MO",
  "USEaaTHREE NETWORKED COMPUTERSaaPRINTERabOCKET CALCULATORaaBLACK HARD SHELL FLOPPY DISKaaWHITE",
  " HARD SHELL FLOPPY DISKaaSOFT SHELL FLOPPY DISKaaTAPE CARTRIDGEaaWIRED KEYBOARDaaONE BUTTON MO",
  "USEaaTWO BUTTON MOUSEabHREE BUTTON MOUSEabRACKBALLaaOLD PERSONAL COMPUTERaaHARD DISKaaSCREENaa",
  "PRINTER ICONaaFAX ICONaaOPTICAL DISC ICONaaDOCUMENT WITH TEXTas AND PICTUREaoPICTUREaaFRAME WI",
  "TH PICTUREalTILESalAN XaaBLACK FOLDERaaFOLDERaaOPEN FOLDERaaCARD INDEX DIVIDERSafFILE BOXaaFIL",
  "E CABINETaaEMPTY NOTEak PAGEanDaaNOTEae PAGEahDaaEMPTY DOCUMENTagPAGEakSaaDOCUMENTaaPAGEaeSaaW",
  "ASTEBASKETaaSPIRAL NOTE PADahCALENDAR PADaaDESKTOP WINDOWaaMINIMIZEabAXIMIZEaaOVERLAPaaCLOCKWI",
  "SE RIGHT AND LEFT SEMICIRCLE ARROWSabANCELLATION XaaINCREASE FONT SIZE SYMBOLaaDECREASE FONT S",
  "IZE SYMBOLaaCOMPRESSIONaaOLD KEYaaROLLED-UP NEWSPAPERaaPAGE WITH CIRCLED TEXTaaSTOCK CHARTaaDA",
  "GGER KNIFEaaLIPSaaSPEAKING HEAD IN SILHOUETTEaaTHREE RAYS ABOVEalBELOWalLEFTalRIGHTaaLEFT SPEE",
  "CH BUBBLEaaRIGHT SPEECH BUBBLEaaTWO SPEECH BUBBLESabHREE SPEECH BUBBLESaaLEFT THOUGHT BUBBLEaa",
  "RIGHT THOUGHT BUBBLEaaLEFT ANGER BUBBLEaaRIGHT ANGER BUBBLEaaMOOD BUBBLEaaLIGHTNING MOOD BUBBL",
  "EaoaaBALLOT BOX WITH BALLOTahSCRIPT XahBOX WITH SCRIPT XajLD SCRIPT XajX WITH BOLD SCRIPT XaaL",
  "IGHT CHECK MARKaaBALLOT BOX WITH BOLD CHECKaaWORLD MAPaaMOUNT FUJIaaTOKYO TOWERaaSTATUE OF LIB",
  "ERTYabILHOUETTE OF JAPANaaMOYAIaaGRINNING FACEan WITH SMILING EYESaaFACE WITH TEARS OF JOYaaSM",
  "ILING FACE WITH OPEN MOUTHbc AND SMILING EYESbhCOLD SWEATbhTIGHTLY-CLOSED EYESasHALOatORNSaaWI",
  "NKING FACEaaSMILING FACE WITH SMILING EYESaaFACE SAVOURING DELICIOUS FOODaaRELIEVED FACEaaSMIL",
  "ING FACE WITH HEART-SHAPED EYESasSUNGLASSESadRKING FACEaaNEUTRAL FACEaaEXPRESSIONLESS FACEaaUN",
  "AMUSED FACEaaFACE WITH COLD SWEATaaPENSIVE FACEaaCONFUSED FACEaeOUNDED FACEaaKISSING FACEaaFAC",
  "E THROWING A KISSaaKISSING FACE WITH SMILING EYESasCLOSED EYESaaFACE WITH STUCK-OUT TONGUEba A",
  "ND WINKING EYEbfTIGHTLY-CLOSED EYESaaDISAPPOINTED FACEaaWORRIED FACEaaANGRY FACEaaPOUTING FACE",
  "aaCRYING FACEaaPERSEVERING FACEaaFACE WITH LOOK OF TRIUMPHaaDISAPPOINTED BUT RELIEVED FACEaaFR",
  "OWNING FACE WITH OPEN MOUTHaaANGUISHED FACEaaFEARFUL FACEaaWEARY FACEaaSLEEPY FACEaaTIRED FACE",
  "aaGRIMACING FACEaaLOUDLY CRYING FACEaaFACE WITH OPEN MOUTHaaHUSHED FACEaaFACE WITH OPEN MOUTH ",
  "AND COLD SWEATafSCREAMING IN FEARaaASTONISHED FACEaaFLUSHED FACEaaSLEEPING FACEaaDIZZY FACEaaF",
  "ACE WITHOUT MOUTHaj MEDICAL MASKaaGRINNING CAT FACE WITH SMILING EYESaaCAT FACE WITH TEARS OF ",
  "JOYaaSMILING CAT FACE WITH OPEN MOUTHawHEART-SHAPED EYESaaCAT FACE WITH WRY SMILEaaKISSING CAT",
  " FACE WITH CLOSED EYESaaPOUTING CAT FACEaaCRYING CAT FACEaaWEARY CAT FACEaaSLIGHTLY FROWNING F",
  "ACEajSMILING FACEaaUPSIDE-DOWN FACEaaFACE WITH ROLLING EYESakNO GOOD GESTUREakOK GESTUREaaPERS",
  "ON BOWING DEEPLYaaSEE-NO-EVIL MONKEYaaHEAR-NO-EVIL MONKEYaaSPEAK-NO-EVIL MONKEYaaHAPPY PERSON ",
  "RAISING ONE HANDaaPERSON RAISING BOTH HANDS IN CELEBRATIONahFROWNINGahWITH POUTING FACEamFOLDE",
  "D HANDSaaNORTH WEST POINTING LEAFaaSOUTH WEST POINTING LEAFaaNORTH EAST POINTING LEAFaaSOUTH E",
  "AST POINTING LEAFaaTURNED NORTH WEST POINTING LEAFahSOUTH WEST POINTING LEAFahNORTH EAST POINT",
  "ING LEAFahSOUTH EAST POINTING LEAFaaNORTH WEST POINTING VINE LEAFaaSOUTH WEST POINTING VINE LE",
  "AFaaNORTH EAST POINTING VINE LEAFaaSOUTH EAST POINTING VINE LEAFaaHEAVY NORTH WEST POINTING VI",
  "NE LEAFagSOUTH WEST POINTING VINE LEAFagNORTH EAST POINTING VINE LEAFagSOUTH EAST POINTING VIN",
  "E LEAFaaNORTH WEST POINTING BUDaaSOUTH WEST POINTING BUDaaNORTH EAST POINTING BUDaaSOUTH EAST ",
  "POINTING BUDaaHEAVY NORTH WEST POINTING BUDagSOUTH WEST POINTING BUDagNORTH EAST POINTING BUDa",
  "gSOUTH EAST POINTING BUDabOLLOW QUILT SQUARE ORNAMENTbc IN BLACK SQUAREaaSOLID QUILT SQUARE OR",
  "NAMENTbb IN BLACK SQUAREaaLEFTWARDS ROCKETaaUPWARDS ROCKETaaRIGHTWARDS ROCKETaaDOWNWARDS ROCKE",
  "TaaSCRIPT LIGATURE ET ORNAMENTaaHEAVY SCRIPT LIGATURE ET ORNAMENTaaLIGATURE OPEN ET ORNAMENTaa",
  "HEAVY LIGATURE OPEN ET ORNAMENTagAMPERSAND ORNAMENTaaSWASH AMPERSAND ORNAMENTabANS-SERIF HEAVY",
  " DOUBLE TURNED COMMA QUOTATION MARK ORNAMENTayCOMMA QUOTATION MARK ORNAMENTarLOW DOUBLE COMMA ",
  "QUOTATION MARK ORNAMENTaaHEAVY INTERROBANG ORNAMENTaaSANS-SERIF INTERROBANG ORNAMENTaaHEAVY SA",
  "NS-SERIF INTERROBANG ORNAMENTaaVERY HEAVY SOLIDUSalREVERSE SOLIDUSaaCHECKER BOARDaaREVERSE CHE",
  "CKER BOARDabOCKETaaHELICOPTERaaSTEAM LOCOMOTIVEaaRAILWAY CARaaHIGH-SPEED TRAINaq WITH BULLET N",
  "OSEaaTRAINaaMETROaaLIGHT RAILaaSTATIONaaTRAMae CARaaBUSaaONCOMING BUSaaTROLLEYBUSaaBUS STOPaaM",
  "INIBUSaaAMBULANCEaaFIRE ENGINEaaPOLICE CARaaONCOMING POLICE CARaaTAXIaaONCOMING TAXIaaAUTOMOBI",
  "LEaaONCOMING AUTOMOBILEaaRECREATIONAL VEHICLEaaDELIVERY TRUCKaaARTICULATED LORRYaaTRACTORaaMON",
  "ORAILacUNTAIN RAILWAYaaSUSPENSION RAILWAYaaMOUNTAIN CABLEWAYaaAERIAL TRAMWAYaaSHIPaaROWBOATaaS",
  "PEEDBOATaaHORIZONTAL TRAFFIC LIGHTaaVERTICAL TRAFFIC LIGHTaaCONSTRUCTION SIGNaaPOLICE CARS REV",
  "OLVING LIGHTaaTRIANGULAR FLAG ON POSTaaDOORaaNO ENTRY SIGNaaSMOKING SYMBOLaaNO SMOKING SYMBOLa",
  "aPUT LITTER IN ITS PLACE SYMBOLaaDO NOT LITTER SYMBOLaaPOTABLE WATER SYMBOLaaNON-POTABLE WATER",
  " SYMBOLaaBICYCLEaaNO BICYCLESaaBICYCLISTaaMOUNTAIN BICYCLISTaaPEDESTRIANaaNO PEDESTRIANSaaCHIL",
  "DREN CROSSINGaaMENS SYMBOLaaWOMENS SYMBOLaaRESTROOMaaBABY SYMBOLaaTOILETaaWATER CLOSETaaSHOWER",
  "aaBATHaeTUBaaPASSPORT CONTROLaaCUSTOMSaaBAGGAGE CLAIMaaLEFT LUGGAGEaaTRIANGLE WITH ROUNDED COR",
  "NERSaaPROHIBITED SIGNaaCIRCLED INFORMATION SOURCEaaBOYS SYMBOLaaGIRLS SYMBOLaaCOUCH AND LAMPaa",
  "SLEEPING ACCOMMODATIONabHOPPING BAGSaaBELLHOP BELLacDaaPLACE OF WORSHIPaaOCTAGONAL SIGNaaSHOPP",
  "ING TROLLEYabTUPAaaPAGODAaaHINDU TEMPLEabUTaaELEVATOR@1F6DDaaPLAYGROUND SLIDEaaWHEELaaRING BUO",
  "YaaHAMMER AND WRENCHaaSHIELDaaOIL DRUMaaMOTORWAYaaRAILWAY TRACKaaMOTOR BOATaaUP-POINTING MILIT",
  "ARY AIRPLANEamAIRPLANEamSMALL AIRPLANEaaSMALL AIRPLANEaaNORTHEAST-POINTING AIRPLANEaaAIRPLANE ",
  "DEPARTUREajARRIVING@1F6F0aaSATELLITEaaONCOMING FIRE ENGINEaaDIESEL LOCOMOTIVEaaPASSENGER SHIPa",
  "aSCOOTERaaMOTOR SCOOTERaaCANOEaaSLEDaaFLYING SAUCERaaSKATEBOARDaaAUTO RICKSHAWaaPICKUP TRUCKaa",
  "ROLLER SKATE@1F700aaALCHEMICAL SYMBOL FOR QUINTESSENCEawAIRawFIREawEARTHawWATERawAQUAFORTISba ",
  "REGIAbg-2bbVITAEbg-2awVINEGARbd-2be3awSULFURawPHILOSOPHERS SULFURawBLACK SULFURawMERCURY SUBLI",
  "MATEbn-2bo3awCINNABARawSALTawNITREawVITRIOLbd-2awROCK SALTbf-2awGOLDawSILVERawIRON OREbe-2awCR",
  "OCUS OF IRONawREGULUS OF IRONawCOPPER OREawIRON-COPPER OREawSUBLIMATE OF COPPERawCROCUS OF COP",
  "PERbm-2axOPPER ANTIMONIATEawSALT OF COPPER ANTIMONIATEaxUBLIMATE OF SALT OF COPPERawVERDIGRISa",
  "wTIN OREawLEAD OREawANTIMONY OREawSUBLIMATE OF ANTIMONYaxALT OF ANTIMONYaxUBLIMATE OF SALT OF ",
  "ANTIMONYawVINEGAR OF ANTIMONYawREGULUS OF ANTIMONYbp-2bdbd-2be3be4awALKALIbc-2awMARCASITEawSAL",
  "-AMMONIACawARSENICawREALGARbd-2awAURIPIGMENTawBISMUTH OREawTARTARbc-2awQUICK LIMEawBORAXbb-2bc",
  "3awALUMawOILawSPIRITawTINCTUREawGUMawWAXawPOWDERawCALXawTUTTYawCAPUT MORTUUMawSCEPTER OF JOVEa",
  "wCADUCEUSawTRIDENTawSTARRED TRIDENTawLODESTONEawSOAPawURINEawHORSE DUNGawASHESawPOT ASHESawBRI",
  "CKawPOWDERED BRICKawAMALGAMawSTRATUM SUPER STRATUMbr-2axUBLIMATIONawPRECIPITATEawDISTILLazSOLV",
  "Ebe-2awPURIFYayTREFACTIONawCRUCIBLEbe-2bf3bf4bf5awALEMBICawBATH OF MARYbeVAPOURSawRETORTawHOUR",
  "awNIGHTawDAY-NIGHTawMONTHawHALF DRAMbbOUNCE@1F780aaBLACK LEFT-POINTING ISOSCELES RIGHT TRIANGL",
  "EagUP-POINTING ISOSCELES RIGHT TRIANGLEagRIGHT-POINTING ISOSCELES RIGHT TRIANGLEagDOWN-POINTIN",
  "G ISOSCELES RIGHT TRIANGLEagSLIGHTLY SMALL CIRCLEaaMEDIUM BOLD WHITE CIRCLEaaBOLD WHITE CIRCLE",
  "aaHEAVY WHITE CIRCLEaaVERY HEAVY WHITE CIRCLEaaEXTREMELY HEAVY WHITE CIRCLEaaWHITE CIRCLE CONT",
  "AINING BLACK SMALL CIRCLEaaROUND TARGETaaBLACK TINY SQUAREagSLIGHTLY SMALL SQUAREaaLIGHT WHITE",
  " SQUAREaaMEDIUM WHITE SQUAREaaBOLD WHITE SQUAREaaHEAVY WHITE SQUAREaaVERY HEAVY WHITE SQUAREaa",
  "EXTREMELY HEAVY WHITE SQUAREaaWHITE SQUARE CONTAINING BLACK VERY SMALL SQUAREbeMEDIUM SQUAREaa",
  "SQUARE TARGETaaBLACK TINY DIAMONDagVERY SMALL DIAMONDagMEDIUM SMALL DIAMONDaaWHITE DIAMOND CON",
  "TAINING BLACK VERY SMALL DIAMONDbfMEDIUM DIAMONDaaDIAMOND TARGETaaBLACK TINY LOZENGEagVERY SMA",
  "LL LOZENGEagMEDIUM SMALL LOZENGEaaWHITE LOZENGE CONTAINING BLACK SMALL LOZENGEaaTHIN GREEK CRO",
  "SSaaLIGHT GREEK CROSSaaMEDIUM GREEK CROSSaaBOLD GREEK CROSSaaVERY BOLD GREEK CROSSafHEAVY GREE",
  "K CROSSaaEXTREMELY HEAVY GREEK CROSSaaTHIN SALTIREaaLIGHT SALTIREaaMEDIUM SALTIREaaBOLD SALTIR",
  "EaaHEAVY SALTIREaaVERY HEAVY SALTIREaaEXTREMELY HEAVY SALTIREaaLIGHT FIVE SPOKED ASTERISKaaMED",
  "IUM FIVE SPOKED ASTERISKaaBOLD FIVE SPOKED ASTERISKaaHEAVY FIVE SPOKED ASTERISKaaVERY HEAVY FI",
  "VE SPOKED ASTERISKaaEXTREMELY HEAVY FIVE SPOKED ASTERISKaaLIGHT SIX SPOKED ASTERISKaaMEDIUM SI",
  "X SPOKED ASTERISKaaBOLD SIX SPOKED ASTERISKaaHEAVY SIX SPOKED ASTERISKaaVERY HEAVY SIX SPOKED ",
  "ASTERISKaaEXTREMELY HEAVY SIX SPOKED ASTERISKaaLIGHT EIGHT SPOKED ASTERISKaaMEDIUM EIGHT SPOKE",
  "D ASTERISKaaBOLD EIGHT SPOKED ASTERISKaaHEAVY EIGHT SPOKED ASTERISKaaVERY HEAVY EIGHT SPOKED A",
  "STERISKaaLIGHT THREE POINTED BLACK STARaaMEDIUM THREE POINTED BLACK STARaaTHREE POINTED BLACK ",
  "STARaaMEDIUM THREE POINTED PINWHEEL STARaaLIGHT FOUR POINTED BLACK STARaaMEDIUM FOUR POINTED B",
  "LACK STARaaFOUR POINTED BLACK STARaaMEDIUM FOUR POINTED PINWHEEL STARaaREVERSE LIGHT FOUR POIN",
  "TED PINWHEEL STARaaLIGHT FIVE POINTED BLACK STARaaHEAVY FIVE POINTED BLACK STARaaMEDIUM SIX PO",
  "INTED BLACK STARaaHEAVY SIX POINTED BLACK STARaaSIX POINTED PINWHEEL STARaaMEDIUM EIGHT POINTE",
  "D BLACK STARaaHEAVY EIGHT POINTED BLACK STARaaVERY HEAVY EIGHT POINTED BLACK STARaaHEAVY EIGHT",
  " POINTED PINWHEEL STARaaLIGHT TWELVE POINTED BLACK STARaaHEAVY TWELVE POINTED BLACK STARavPINW",
  "HEEL STARaaCIRCLED TRIANGLEaaNEGATIVE CIRCLED TRIANGLEaaCIRCLED SQUAREaaNEGATIVE CIRCLED SQUAR",
  "E@1F7E0aaLARGE ORANGE CIRCLEagYELLOW CIRCLEagGREEN CIRCLEagPURPLE CIRCLEagBROWN CIRCLEagRED SQ",
  "UAREagBLUE SQUAREagORANGE SQUAREagYELLOW SQUAREagGREEN SQUAREagPURPLE SQUAREagBROWN SQUARE@1F7",
  "F0aaHEAVY EQUALS SIGN@1F800aaLEFTWARDS ARROW WITH SMALL TRIANGLE ARROWHEADaaUPWARDS ARROW WITH",
  " SMALL TRIANGLE ARROWHEADaaRIGHTWARDS ARROW WITH SMALL TRIANGLE ARROWHEADaaDOWNWARDS ARROW WIT",
  "H SMALL TRIANGLE ARROWHEADaaLEFTWARDS ARROW WITH MEDIUM TRIANGLE ARROWHEADaaUPWARDS ARROW WITH",
  " MEDIUM TRIANGLE ARROWHEADaaRIGHTWARDS ARROW WITH MEDIUM TRIANGLE ARROWHEADaaDOWNWARDS ARROW W",
  "ITH MEDIUM TRIANGLE ARROWHEADaaLEFTWARDS ARROW WITH LARGE TRIANGLE ARROWHEADaaUPWARDS ARROW WI",
  "TH LARGE TRIANGLE ARROWHEADaaRIGHTWARDS ARROW WITH LARGE TRIANGLE ARROWHEADaaDOWNWARDS ARROW W",
  "ITH LARGE TRIANGLE ARROWHEAD@1F810aaLEFTWARDS ARROW WITH SMALL EQUILATERAL ARROWHEADaaUPWARDS ",
  "ARROW WITH SMALL EQUILATERAL ARROWHEADaaRIGHTWARDS ARROW WITH SMALL EQUILATERAL ARROWHEADaaDOW",
  "NWARDS ARROW WITH SMALL EQUILATERAL ARROWHEADaaLEFTWARDS ARROW WITH EQUILATERAL ARROWHEADaaUPW",
  "ARDS ARROW WITH EQUILATERAL ARROWHEADaaRIGHTWARDS ARROW WITH EQUILATERAL ARROWHEADaaDOWNWARDS ",
  "ARROW WITH EQUILATERAL ARROWHEADaaHEAVY LEFTWARDS ARROW WITH EQUILATERAL ARROWHEADagUPWARDS AR",
  "ROW WITH EQUILATERAL ARROWHEADagRIGHTWARDS ARROW WITH EQUILATERAL ARROWHEADagDOWNWARDS ARROW W",
  "ITH EQUILATERAL ARROWHEADagLEFTWARDS ARROW WITH LARGE EQUILATERAL ARROWHEADagUPWARDS ARROW WIT",
  "H LARGE EQUILATERAL ARROWHEADagRIGHTWARDS ARROW WITH LARGE EQUILATERAL ARROWHEADagDOWNWARDS AR",
  "ROW WITH LARGE EQUILATERAL ARROWHEADaaLEFTWARDS TRIANGLE-HEADED ARROW WITH NARROW SHAFTaaUPWAR",
  "DS TRIANGLE-HEADED ARROW WITH NARROW SHAFTaaRIGHTWARDS TRIANGLE-HEADED ARROW WITH NARROW SHAFT",
  "aaDOWNWARDS TRIANGLE-HEADED ARROW WITH NARROW SHAFTaaLEFTWARDS TRIANGLE-HEADED ARROW WITH MEDI",
  "UM SHAFTaaUPWARDS TRIANGLE-HEADED ARROW WITH MEDIUM SHAFTaaRIGHTWARDS TRIANGLE-HEADED ARROW WI",
  "TH MEDIUM SHAFTaaDOWNWARDS TRIANGLE-HEADED ARROW WITH MEDIUM SHAFTaaLEFTWARDS TRIANGLE-HEADED ",
  "ARROW WITH BOLD SHAFTaaUPWARDS TRIANGLE-HEADED ARROW WITH BOLD SHAFTaaRIGHTWARDS TRIANGLE-HEAD",
  "ED ARROW WITH BOLD SHAFTaaDOWNWARDS TRIANGLE-HEADED ARROW WITH BOLD SHAFTaaLEFTWARDS TRIANGLE-",
  "HEADED ARROW WITH HEAVY SHAFTaaUPWARDS TRIANGLE-HEADED ARROW WITH HEAVY SHAFTaaRIGHTWARDS TRIA",
  "NGLE-HEADED ARROW WITH HEAVY SHAFTaaDOWNWARDS TRIANGLE-HEADED ARROW WITH HEAVY SHAFTaaLEFTWARD",
  "S TRIANGLE-HEADED ARROW WITH VERY HEAVY SHAFTaaUPWARDS TRIANGLE-HEADED ARROW WITH VERY HEAVY S",
  "HAFTaaRIGHTWARDS TRIANGLE-HEADED ARROW WITH VERY HEAVY SHAFTaaDOWNWARDS TRIANGLE-HEADED ARROW ",
  "WITH VERY HEAVY SHAFTaaLEFTWARDS FINGER-POST ARROWaaUPWARDS FINGER-POST ARROWaaRIGHTWARDS FING",
  "ER-POST ARROWaaDOWNWARDS FINGER-POST ARROWaaLEFTWARDS SQUARED ARROWaaUPWARDS SQUARED ARROWaaRI",
  "GHTWARDS SQUARED ARROWaaDOWNWARDS SQUARED ARROWaaLEFTWARDS COMPRESSED ARROWaaUPWARDS COMPRESSE",
  "D ARROWaaRIGHTWARDS COMPRESSED ARROWaaDOWNWARDS COMPRESSED ARROWaaLEFTWARDS HEAVY COMPRESSED A",
  "RROWaaUPWARDS HEAVY COMPRESSED ARROWaaRIGHTWARDS HEAVY COMPRESSED ARROWaaDOWNWARDS HEAVY COMPR",
  "ESSED ARROWaaLEFTWARDS HEAVY ARROWaaUPWARDS HEAVY ARROWaaRIGHTWARDS HEAVY ARROWaaDOWNWARDS HEA",
  "VY ARROW@1F850aaLEFTWARDS SANS-SERIF ARROWaaUPWARDS SANS-SERIF ARROWaaRIGHTWARDS SANS-SERIF AR",
  "ROWaaDOWNWARDS SANS-SERIF ARROWaaNORTH WEST SANS-SERIF ARROWagEAST SANS-SERIF ARROWaaSOUTH EAS",
  "T SANS-SERIF ARROWagWEST SANS-SERIF ARROWaaLEFT RIGHT SANS-SERIF ARROWaaUP DOWN SANS-SERIF ARR",
  "OW@1F860aaWIDE-HEADED LEFTWARDS LIGHT BARB ARROWamUPWARDS LIGHT BARB ARROWamRIGHTWARDS LIGHT B",
  "ARB ARROWamDOWNWARDS LIGHT BARB ARROWamNORTH WEST LIGHT BARB ARROWasEAST LIGHT BARB ARROWamSOU",
  "TH EAST LIGHT BARB ARROWasWEST LIGHT BARB ARROWamLEFTWARDS BARB ARROWamUPWARDS BARB ARROWamRIG",
  "HTWARDS BARB ARROWamDOWNWARDS BARB ARROWamNORTH WEST BARB ARROWasEAST BARB ARROWamSOUTH EAST B",
  "ARB ARROWasWEST BARB ARROWamLEFTWARDS MEDIUM BARB ARROWamUPWARDS MEDIUM BARB ARROWamRIGHTWARDS",
  " MEDIUM BARB ARROWamDOWNWARDS MEDIUM BARB ARROWamNORTH WEST MEDIUM BARB ARROWasEAST MEDIUM BAR",
  "B ARROWamSOUTH EAST MEDIUM BARB ARROWasWEST MEDIUM BARB ARROWamLEFTWARDS HEAVY BARB ARROWamUPW",
  "ARDS HEAVY BARB ARROWamRIGHTWARDS HEAVY BARB ARROWamDOWNWARDS HEAVY BARB ARROWamNORTH WEST HEA",
  "VY BARB ARROWasEAST HEAVY BARB ARROWamSOUTH EAST HEAVY BARB ARROWasWEST HEAVY BARB ARROWamLEFT",
  "WARDS VERY HEAVY BARB ARROWamUPWARDS VERY HEAVY BARB ARROWamRIGHTWARDS VERY HEAVY BARB ARROWam",
  "DOWNWARDS VERY HEAVY BARB ARROWamNORTH WEST VERY HEAVY BARB ARROWasEAST VERY HEAVY BARB ARROWa",
  "mSOUTH EAST VERY HEAVY BARB ARROWasWEST VERY HEAVY BARB ARROW@1F890aaLEFTWARDS TRIANGLE ARROWH",
  "EADaaUPWARDS TRIANGLE ARROWHEADaaRIGHTWARDS TRIANGLE ARROWHEADaaDOWNWARDS TRIANGLE ARROWHEADaa",
  "LEFTWARDS WHITE ARROW WITHIN TRIANGLE ARROWHEADaaUPWARDS WHITE ARROW WITHIN TRIANGLE ARROWHEAD",
  "aaRIGHTWARDS WHITE ARROW WITHIN TRIANGLE ARROWHEADaaDOWNWARDS WHITE ARROW WITHIN TRIANGLE ARRO",
  "WHEADaaLEFTWARDS ARROW WITH NOTCHED TAILaaUPWARDS ARROW WITH NOTCHED TAILaaRIGHTWARDS ARROW WI",
  "TH NOTCHED TAILaaDOWNWARDS ARROW WITH NOTCHED TAILaaHEAVY ARROW SHAFT WIDTH ONEayTWO THIRDSayO",
  "NE HALFbcTHIRDaaLEFTWARDS BOTTOM-SHADED WHITE ARROWaaRIGHTWARDS BOTTOM SHADED WHITE ARROWaaLEF",
  "TWARDS TOP SHADED WHITE ARROWaaRIGHTWARDS TOP SHADED WHITE ARROWaaLEFTWARDS LEFT-SHADED WHITE ",
  "ARROWaaRIGHTWARDS RIGHT-SHADED WHITE ARROWaaLEFTWARDS RIGHT-SHADED WHITE ARROWaaRIGHTWARDS LEF",
  "T-SHADED WHITE ARROWaaLEFTWARDS BACK-TILTED SHADOWED WHITE ARROWaaRIGHTWARDS BACK-TILTED SHADO",
  "WED WHITE ARROWaaLEFTWARDS FRONT-TILTED SHADOWED WHITE ARROWaaRIGHTWARDS FRONT-TILTED SHADOWED",
  " WHITE ARROWaaWHITE ARROW SHAFT WIDTH ONEayTWO THIRDS@1F8B0aaARROW POINTING UPWARDS THEN NORTH",
  " WESTapRIGHTWARDS THEN CURVING SOUTH WEST@1F900aaCIRCLED CROSS FORMEE WITH FOUR DOTSbaTWO DOTS",
  "auaaLEFT HALF CIRCLE WITH FOUR DOTSawTHREE DOTSaxWO DOTSawDOTaqaaDOWNWARD FACING HOOKaqNOTCHED",
  " HOOKaqHOOK WITH DOTaqNOTCHED HOOK WITH DOTaaPINCHED FINGERSaaWHITE HEARTaaBROWN HEARTaaPINCHI",
  "NG HANDaaZIPPER-MOUTH FACEaaMONEY-MOUTH FACEaaFACE WITH THERMOMETERaaNERD FACEaaTHINKING FACEa",
  "aFACE WITH HEAD-BANDAGEaaROBOT FACEaaHUGGING FACEaaSIGN OF THE HORNSaaCALL ME HANDaaRAISED BAC",
  "K OF HANDaaLEFT-FACING FISTaaRIGHT-FACING FISTaaHANDSHAKEae WITH INDEX AND MIDDLE FINGERS CROS",
  "SEDaaI LOVE YOU HAND SIGNaaFACE WITH COWBOY HATaaCLOWN FACEaaNAUSEATED FACEaaROLLING ON THE FL",
  "OOR LAUGHINGaaDROOLING FACEaaLYING FACEaaFACE PALMaaSNEEZING FACEaaFACE WITH ONE EYEBROW RAISE",
  "DaaGRINNING FACE WITH STAR EYESatONE LARGE AND ONE SMALL EYEaaFACE WITH FINGER COVERING CLOSED",
  " LIPSaaSERIOUS FACE WITH SYMBOLS COVERING MOUTHabMILING FACE WITH SMILING EYES AND HAND COVERI",
  "NG MOUTHaaFACE WITH OPEN MOUTH VOMITINGaaSHOCKED FACE WITH EXPLODING HEADaaPREGNANT WOMANaaBRE",
  "AST-FEEDINGaaPALMS UP TOGETHERaaSELFIEaaPRINCEaaMAN IN TUXEDOabOTHER CHRISTMASaaSHRUGaaPERSON ",
  "DOING CARTWHEELaaJUGGLINGaaFENCERaaMODERN PENTATHLONaaWRESTLERSabATER POLOaaHANDBALLaaDIVING M",
  "ASKaaWILTED FLOWERaaDRUM WITH DRUMSTICKSaaCLINKING GLASSESaaTUMBLER GLASSaaSPOONaaGOAL NETaaRI",
  "FLEaaFIRST PLACE MEDALaaSECOND PLACE MEDALaaTHIRD PLACE MEDALaaBOXING GLOVEaaMARTIAL ARTS UNIF",
  "ORMaaCURLING STONEaaLACROSSE STICK AND BALLaaSOFTBALLaaFLYING DISCaaCROISSANTaaAVOCADOaaCUCUMB",
  "ERaaBACONaaPOTATOaaCARROTaaBAGUETTE BREADaaGREEN SALADaaSHALLOW PAN OF FOODabTUFFED FLATBREADa",
  "aEGGaaGLASS OF MILKaaPEANUTSaaKIWIFRUITaaPANCAKESaaDUMPLINGaaFORTUNE COOKIEaaTAKEOUT BOXaaCHOP",
  "STICKSaaBOWL WITH SPOONaaCUP WITH STRAWabOCONUTaaBROCCOLIaaPIEabRETZELaaCUT OF MEATaaSANDWICHa",
  "aCANNED FOODaaLEAFY GREENaaMANGOabOON CAKEaaBAGELaaSMILING FACE WITH SMILING EYES AND THREE HE",
  "ARTSaaYAWNING FACEaaSMILING FACE WITH TEARaaFACE WITH PARTY HORN AND PARTY HATakUNEVEN EYES AN",
  "D WAVY MOUTHaaOVERHEATED FACEaaFREEZING FACEaaNINJAaaDISGUISED FACEaaFACE HOLDING BACK TEARSaf",
  "WITH PLEADING EYESaaSARIaaLAB COATaaGOGGLESaaHIKING BOOTaaFLAT SHOEaaCRABaaLION FACEaaSCORPION",
  "aaTURKEYaaUNICORN FACEaaEAGLEaaDUCKaaBATaaSHARKaaOWLaaFOX FACEaaBUTTERFLYaaDEERaaGORILLAaaLIZA",
  "RDaaRHINOCEROSaaSHRIMPabQUIDaaGIRAFFE FACEaaZEBRA FACEaaHEDGEHOGaaSAUROPODaaT-REXaaCRICKETaaKA",
  "NGAROOaaLLAMAaaPEACOCKaaHIPPOPOTAMUSaaPARROTaaRACCOONaaLOBSTERaaMOSQUITOabICROBEaaBADGERaaSWAN",
  "aaMAMMOTHaaDODOaaSLOTHaaOTTERabRANGUTANaaSKUNKaaFLAMINGOaaOYSTERaaBEAVERabISONaaSEALaaGUIDE DO",
  "GaaPROBING CANEaaEMOJI COMPONENT RED HAIRaqCURLY HAIRaqBALDaqWHITE HAIRaaBONEaaLEGaaFOOTaaTOOT",
  "HaaSUPERHEROafVILLAINabAFETY VESTaaEAR WITH HEARING AIDaaMOTORIZED WHEELCHAIRabANUAL WHEELCHAI",
  "RabECHANICAL ARMalLEGaaCHEESE WEDGEabUPCAKEaaSALT SHAKERaaBEVERAGE BOXaaGARLICaaONIONaaFALAFEL",
  "aaWAFFLEaaBUTTERaaMATE DRINKaaICE CUBEaaBUBBLE TEAaaTROLLaaSTANDING PERSONaaKNEELING PERSONaaD",
  "EAF PERSONaaFACE WITH MONOCLEaaADULTaaCHILDaaOLDER ADULTaaBEARDED PERSONaaPERSON WITH HEADSCAR",
  "FahIN STEAMY ROOMahCLIMBINGahIN LOTUS POSITIONaaMAGEaaFAIRYaaVAMPIREaaMERPERSONaaELFaaGENIEaaZ",
  "OMBIEaaBRAINaaORANGE HEARTaaBILLED CAPaaSCARFaaGLOVESaaCOATaaSOCKSaaRED GIFT ENVELOPEaaFIRECRA",
  "CKERaaJIGSAW PUZZLE PIECEaaTEST TUBEaaPETRI DISHaaDNA DOUBLE HELIXaaCOMPASSaaABACUSaaFIRE EXTI",
  "NGUISHERaaTOOLBOXaaBRICKaaMAGNETaaLUGGAGEabOTION BOTTLEaaSPOOL OF THREADaaBALL OF YARNaaSAFETY",
  " PINaaTEDDY BEARaaBROOMabASKETaaROLL OF PAPERaaBAR OF SOAPaaSPONGEaaRECEIPTaaNAZAR AMULETabEUT",
  "RAL CHESS KINGaoQUEENaoROOKaoBISHOPaoKNIGHTaoPAWNaaWHITE CHESS KNIGHT ROTATED FORTY-FIVE DEGRE",
  "ESaaBLACK CHESS KNIGHT ROTATED FORTY-FIVE DEGREESaaNEUTRAL CHESS KNIGHT ROTATED FORTY-FIVE DEG",
  "REESaaWHITE CHESS KING ROTATED NINETY DEGREESamQUEEN ROTATED NINETY DEGREESamROOK ROTATED NINE",
  "TY DEGREESamBISHOP ROTATED NINETY DEGREESamKNIGHT ROTATED NINETY DEGREESamPAWN ROTATED NINETY ",
  "DEGREESaaBLACK CHESS KING ROTATED NINETY DEGREESamQUEEN ROTATED NINETY DEGREESamROOK ROTATED N",
  "INETY DEGREESamBISHOP ROTATED NINETY DEGREESamKNIGHT ROTATED NINETY DEGREESamPAWN ROTATED NINE",
  "TY DEGREESaaNEUTRAL CHESS KING ROTATED NINETY DEGREESaoQUEEN ROTATED NINETY DEGREESaoROOK ROTA",
  "TED NINETY DEGREESaoBISHOP ROTATED NINETY DEGREESaoKNIGHT ROTATED NINETY DEGREESaoPAWN ROTATED",
  " NINETY DEGREESaaWHITE CHESS KNIGHT ROTATED ONE HUNDRED THIRTY-FIVE DEGREESaaBLACK CHESS KNIGH",
  "T ROTATED ONE HUNDRED THIRTY-FIVE DEGREESaaNEUTRAL CHESS KNIGHT ROTATED ONE HUNDRED THIRTY-FIV",
  "E DEGREESaaWHITE CHESS TURNED KINGatQUEENatROOKatBISHOPatKNIGHTatPAWNaaBLACK CHESS TURNED KING",
  "atQUEENatROOKatBISHOPatKNIGHTatPAWNaaNEUTRAL CHESS TURNED KINGavQUEENavROOKavBISHOPavKNIGHTavP",
  "AWNaaWHITE CHESS KNIGHT ROTATED TWO HUNDRED TWENTY-FIVE DEGREESaaBLACK CHESS KNIGHT ROTATED TW",
  "O HUNDRED TWENTY-FIVE DEGREESaaNEUTRAL CHESS KNIGHT ROTATED TWO HUNDRED TWENTY-FIVE DEGREESaaW",
  "HITE CHESS KING ROTATED TWO HUNDRED SEVENTY DEGREESamQUEEN ROTATED TWO HUNDRED SEVENTY DEGREES",
  "amROOK ROTATED TWO HUNDRED SEVENTY DEGREESamBISHOP ROTATED TWO HUNDRED SEVENTY DEGREESamKNIGHT",
  " ROTATED TWO HUNDRED SEVENTY DEGREESamPAWN ROTATED TWO HUNDRED SEVENTY DEGREESaaBLACK CHESS KI",
  "NG ROTATED TWO HUNDRED SEVENTY DEGREESamQUEEN ROTATED TWO HUNDRED SEVENTY DEGREESamROOK ROTATE",
  "D TWO HUNDRED SEVENTY DEGREESamBISHOP ROTATED TWO HUNDRED SEVENTY DEGREESamKNIGHT ROTATED TWO ",
  "HUNDRED SEVENTY DEGREESamPAWN ROTATED TWO HUNDRED SEVENTY DEGREESaaNEUTRAL CHESS KING ROTATED ",
  "TWO HUNDRED SEVENTY DEGREESaoQUEEN ROTATED TWO HUNDRED SEVENTY DEGREESaoROOK ROTATED TWO HUNDR",
  "ED SEVENTY DEGREESaoBISHOP ROTATED TWO HUNDRED SEVENTY DEGREESaoKNIGHT ROTATED TWO HUNDRED SEV",
  "ENTY DEGREESaoPAWN ROTATED TWO HUNDRED SEVENTY DEGREESaaWHITE CHESS KNIGHT ROTATED THREE HUNDR",
  "ED FIFTEEN DEGREESaaBLACK CHESS KNIGHT ROTATED THREE HUNDRED FIFTEEN DEGREESaaNEUTRAL CHESS KN",
  "IGHT ROTATED THREE HUNDRED FIFTEEN DEGREESaaWHITE CHESS EQUIHOPPERaaBLACK CHESS EQUIHOPPERaaNE",
  "UTRAL CHESS EQUIHOPPERaaWHITE CHESS EQUIHOPPER ROTATED NINETY DEGREESaaBLACK CHESS EQUIHOPPER ",
  "ROTATED NINETY DEGREESaaNEUTRAL CHESS EQUIHOPPER ROTATED NINETY DEGREESaaWHITE CHESS KNIGHT-QU",
  "EENatROOKatBISHOPaaBLACK CHESS KNIGHT-QUEENatROOKatBISHOP@1FA60aaXIANGQI RED GENERALamMANDARIN",
  "amELEPHANTamHORSEamCHARIOTanANNONamSOLDIERaiBLACK GENERALaoMANDARINaoELEPHANTaoHORSEaoCHARIOTa",
  "pANNONaoSOLDIER@1FA70aaBALLET SHOESaaONE-PIECE SWIMSUITaaBRIEFSaaSHORTSaaTHONG SANDAL@1FA78aaD",
  "ROP OF BLOODaaADHESIVE BANDAGEaaSTETHOSCOPEaaX-RAYaaCRUTCH@1FA80aaYO-YOaaKITEaaPARACHUTEaaBOOM",
  "ERANGaaMAGIC WANDaaPINATAaaNESTING DOLLS@1FA90aaRINGED PLANETaaCHAIRaaRAZORaaAXEaaDIYA LAMPaaB",
  "ANJOaaMILITARY HELMETaaACCORDIONaaLONG DRUMaaCOINabARPENTRY SAWaaSCREWDRIVERaaLADDERaaHOOKaaMI",
  "RRORaaWINDOWaaPLUNGERaaSEWING NEEDLEaaKNOTaaBUCKETaaMOUSE TRAPaaTOOTHBRUSHaaHEADSTONEaaPLACARD",
  "aaROCKaaMIRROR BALLaaIDENTIFICATION CARDaaLOW BATTERYaaHAMSA@1FAB0aaFLYaaWORMaaBEETLEaaCOCKROA",
  "CHaaPOTTED PLANTaaWOODaaFEATHERaaLOTUSaaCORALaaEMPTY NESTaaNEST WITH EGGS@1FAC0aaANATOMICAL HE",
  "ARTaaLUNGSaaPEOPLE HUGGINGabREGNANT MANajPERSONabERSON WITH CROWN@1FAD0aaBLUEBERRIESabELL PEPP",
  "ERaaOLIVEaaFLATBREADaaTAMALEaaFONDUEaaTEAPOTaaPOURING LIQUIDaaBEANSaaJAR@1FAE0aaMELTING FACEaa",
  "SALUTING FACEaaFACE WITH OPEN EYES AND HAND OVER MOUTHakPEEKING EYEakDIAGONAL MOUTHaaDOTTED LI",
  "NE FACEaaBITING LIPabUBBLES@1FAF0aaHAND WITH INDEX FINGER AND THUMB CROSSEDaaRIGHTWARDS HANDaa",
  "LEFTWARDS HANDaaPALM DOWN HANDafUP HANDaaINDEX POINTING AT THE VIEWERaaHEART HANDS@1FB00aaBLOC",
  "K SEXTANT-1ao2ao12ao3ao13ao23ao123ao4ao14ao24ao124ao34ao134ao234ao1234ao5ao15ao25ao125ao35ao23",
  "5ao1235ao45ao145ao245ao1245ao345ao1345ao2345ao12345ao6ao16ao26ao126ao36ao136ao236ao1236ao46ao1",
  "46ap246ao346ao1346ao2346ao12346ao56ao156ao256ao1256ao356ao1356ao2356ao12356ao456ao1456ao2456ao",
  "12456ao3456ao13456ao23456aaLOWER LEFT BLOCK DIAGONAL LOWER MIDDLE LEFT TO LOWER CENTREcbRIGHTb",
  "aUPPER MIDDLE LEFT TO LOWER CENTREcbRIGHTbgLEFT TO LOWER CENTREagRIGHT BLOCK DIAGONAL UPPER MI",
  "DDLE LEFT TO UPPER CENTREccRIGHTbbLOWER MIDDLE LEFT TO UPPER CENTREccRIGHTbhLEFT TO UPPER CENT",
  "REbhMIDDLE LEFT TO UPPER MIDDLE RIGHTbhCENTRE TO LOWER MIDDLE RIGHTbhLEFT TO LOWER MIDDLE RIGH",
  "TbhCENTRE TO UPPER MIDDLE RIGHTbhLEFT TO UPPER MIDDLE RIGHTbhCENTRE TO UPPER RIGHTagLEFT BLOCK",
  " DIAGONAL UPPER CENTRE TO UPPER MIDDLE RIGHTbgLEFT TO UPPER MIDDLE RIGHTbgCENTRE TO LOWER MIDD",
  "LE RIGHTbgLEFT TO LOWER MIDDLE RIGHTbgCENTRE TO LOWER RIGHTbgMIDDLE LEFT TO LOWER MIDDLE RIGHT",
  "aaUPPER RIGHT BLOCK DIAGONAL LOWER MIDDLE LEFT TO LOWER CENTREccRIGHTbbUPPER MIDDLE LEFT TO LO",
  "WER CENTREccRIGHTbhLEFT TO LOWER CENTREagLEFT BLOCK DIAGONAL UPPER MIDDLE LEFT TO UPPER CENTRE",
  "cbRIGHTbaLOWER MIDDLE LEFT TO UPPER CENTREcbRIGHTbgLEFT TO UPPER CENTREbgMIDDLE LEFT TO UPPER ",
  "MIDDLE RIGHTbgCENTRE TO LOWER MIDDLE RIGHTbgLEFT TO LOWER MIDDLE RIGHTbgCENTRE TO UPPER MIDDLE",
  " RIGHTbgLEFT TO UPPER MIDDLE RIGHTbgCENTRE TO UPPER RIGHTagRIGHT BLOCK DIAGONAL UPPER CENTRE T",
  "O UPPER MIDDLE RIGHTbhLEFT TO UPPER MIDDLE RIGHTbhCENTRE TO LOWER MIDDLE RIGHTbhLEFT TO LOWER ",
  "MIDDLE RIGHTbhCENTRE TO LOWER RIGHTbhMIDDLE LEFT TO LOWER MIDDLE RIGHTagAND RIGHT AND LOWER TR",
  "IANGULAR THREE QUARTERS BLOCKaaLEFT AND LOWER AND RIGHT TRIANGULAR THREE QUARTERS BLOCKaaUPPER",
  " AND LEFT AND LOWER TRIANGULAR THREE QUARTERS BLOCKaaLEFT AND UPPER AND RIGHT TRIANGULAR THREE",
  " QUARTERS BLOCKafTRIANGULAR ONE QUARTER BLOCKaaUPPER TRIANGULAR ONE QUARTER BLOCKaaRIGHT TRIAN",
  "GULAR ONE QUARTER BLOCKaaLOWER TRIANGULAR ONE QUARTER BLOCKaaVERTICAL ONE EIGHTH BLOCK-2ba3ba4",
  "ba5ba6ba7aaHORIZONTAL ONE EIGHTH BLOCK-2bc3bc4bc5bc6bc7aaLEFT AND LOWER ONE EIGHTH BLOCKajUPPE",
  "R ONE EIGHTH BLOCKaaRIGHT AND UPPER ONE EIGHTH BLOCKakLOWER ONE EIGHTH BLOCKaaUPPER AND LOWER ",
  "ONE EIGHTH BLOCKaaHORIZONTAL ONE EIGHTH BLOCK-1358aaUPPER ONE QUARTER BLOCKagTHREE EIGHTHS BLO",
  "CKagFIVE EIGHTHS BLOCKagTHREE QUARTERS BLOCKagSEVEN EIGHTHS BLOCKaaRIGHT ONE QUARTER BLOCKagTH",
  "REE EIGHTHS BLOCKagFIVE EIGHTHS BLOCKagTHREE QUARTERS BLOCKagSEVEN EIGHTHS BLOCKaaLEFT HALF ME",
  "DIUM SHADEaaRIGHT HALF MEDIUM SHADEaaUPPER HALF MEDIUM SHADEaaLOWER HALF MEDIUM SHADEaaINVERSE",
  " MEDIUM SHADEaaUPPER HALF BLOCK AND LOWER HALF INVERSE MEDIUM SHADEalINVERSE MEDIUM SHADE AND ",
  "LOWER HALF BLOCK@1FB94aaLEFT HALF INVERSE MEDIUM SHADE AND RIGHT HALF BLOCKaaCHECKER BOARD FIL",
  "LaaINVERSE CHECKER BOARD FILLaaHEAVY HORIZONTAL FILLaaUPPER LEFT TO LOWER RIGHT FILLagRIGHT TO",
  " LOWER LEFT FILLagAND LOWER TRIANGULAR HALF BLOCKaaLEFT AND RIGHT TRIANGULAR HALF BLOCKaaUPPER",
  " LEFT TRIANGULAR MEDIUM SHADEagRIGHT TRIANGULAR MEDIUM SHADEaaLOWER RIGHT TRIANGULAR MEDIUM SH",
  "ADEagLEFT TRIANGULAR MEDIUM SHADEaaBOX DRAWINGS LIGHT DIAGONAL UPPER CENTRE TO MIDDLE LEFTbzRI",
  "GHTbcMIDDLE LEFT TO LOWER CENTREbjRIGHT TO LOWER CENTREbcUPPER CENTRE TO MIDDLE LEFT TO LOWER ",
  "CENTREbzRIGHT TO LOWER CENTREbcMIDDLE LEFT TO LOWER CENTRE TO MIDDLE RIGHTbrUPPER CENTRE TO MI",
  "DDLE RIGHTbcUPPER CENTRE TO MIDDLE LEFT AND MIDDLE RIGHT TO LOWER CENTREbzRIGHT AND MIDDLE LEF",
  "T TO LOWER CENTREcfTO LOWER CENTRE TO MIDDLE LEFTbzLEFT TO LOWER CENTRE TO MIDDLE RIGHTbcMIDDL",
  "E LEFT TO UPPER CENTRE TO MIDDLE RIGHT TO LOWER CENTREbjRIGHT TO UPPER CENTRE TO MIDDLE LEFT T",
  "O LOWER CENTREbcDIAMONDatHORIZONTAL WITH VERTICAL STROKEaaARROWHEAD-SHAPED POINTERaaINVERSE CH",
  "ECK MARKaaLEFT HALF RUNNING MANaaRIGHT HALF RUNNING MANaaINVERSE DOWNWARDS ARROW WITH TIP LEFT",
  "WARDSaaLEFTWARDS ARROW AND UPPER AND LOWER ONE EIGHTH BLOCKaaRIGHTWARDS ARROW AND UPPER AND LO",
  "WER ONE EIGHTH BLOCKaaDOWNWARDS ARROW AND RIGHT ONE EIGHTH BLOCKaaUPWARDS ARROW AND RIGHT ONE ",
  "EIGHTH BLOCKaaLEFT HALF FOLDERaaRIGHT HALF FOLDERaaVOIDED GREEK CROSSaaRIGHT OPEN SQUARED DOTa",
  "aNEGATIVE DIAGONAL CROSSasMIDDLE RIGHT TO LOWER CENTREasDIAMONDaaWHITE HEAVY SALTIRE WITH ROUN",
  "DED CORNERSaaLEFT THIRD WHITE RIGHT POINTING INDEXaaMIDDLE THIRD WHITE RIGHT POINTING INDEXaaR",
  "IGHT THIRD WHITE RIGHT POINTING INDEXaaNEGATIVE SQUARED QUESTION MARKaaSTICK FIGUREam WITH ARM",
  "S RAISEDanLEANING LEFTavRIGHTanWITH DRESSaaWHITE UP-POINTING CHEVRON@1FBF0aaSEGMENTED DIGIT ZE",
  "ROaqONEaqTWOarHREEaqFOURarIVEaqSIXarEVENaqEIGHTaqNINE@2F800aaCJK COMPATIBILITY IDEOGRAPH-2F800",
  "bg1bg2bg3bg4bg5bg6bg7bg8bg9bgAbgBbgCbgDbgEbgFbf10bg1bg2bg3bg4bg5bg6bg7bg8bg9bgAbgBbgCbgDbgEbgF",
  "bf20bg1bg2bg3bg4bg5bg6bg7bg8bg9bgAbgBbgCbgDbgEbgFbf30bg1bg2bg3bg4bg5bg6bg7bg8bg9bgAbgBbgCbgDbg",
  "EbgFbf40bg1bg2bg3bg4bg5bg6bg7bg8bg9bgAbgBbgCbgDbgEbgFbf50bg1bg2bg3bg4bg5bg6bg7bg8bg9bgAbgBbgCb",
  "gDbgEbgFbf60bg1bg2bg3bg4bg5bg6bg7bg8bg9bgAbgBbgCbgDbgEbgFbf70bg1bg2bg3bg4bg5bg6bg7bg8bg9bgAbgB",
  "bgCbgDbgEbgFbf80bg1bg2bg3bg4bg5bg6bg7bg8bg9bgAbgBbgCbgDbgEbgFbf90bg1bg2bg3bg4bg5bg6bg7bg8bg9bg",
  "AbgBbgCbgDbgEbgFbfA0bg1bg2bg3bg4bg5bg6bg7bg8bg9bgAbgBbgCbgDbgEbgFbfB0bg1bg2bg3bg4bg5bg6bg7bg8b",
  "g9bgAbgBbgCbgDbgEbgFbfC0bg1bg2bg3bg4bg5bg6bg7bg8bg9bgAbgBbgCbgDbgEbgFbfD0bg1bg2bg3bg4bg5bg6bg7",
  "bg8bg9bgAbgBbgCbgDbgEbgFbfE0bg1bg2bg3bg4bg5bg6bg7bg8bg9bgAbgBbgCbgDbgEbgFbfF0bg1bg2bg3bg4bg5bg",
  "6bg7bg8bg9bgAbgBbgCbgDbgEbgFbe900bg1bg2bg3bg4bg5bg6bg7bg8bg9bgAbgBbgCbgDbgEbgFbf10bg1bg2bg3bg4",
  "bg5bg6bg7bg8bg9bgAbgBbgCbgDbgEbgFbf20bg1bg2bg3bg4bg5bg6bg7bg8bg9bgAbgBbgCbgDbgEbgFbf30bg1bg2bg",
  "3bg4bg5bg6bg7bg8bg9bgAbgBbgCbgDbgEbgFbf40bg1bg2bg3bg4bg5bg6bg7bg8bg9bgAbgBbgCbgDbgEbgFbf50bg1b",
  "g2bg3bg4bg5bg6bg7bg8bg9bgAbgBbgCbgDbgEbgFbf60bg1bg2bg3bg4bg5bg6bg7bg8bg9bgAbgBbgCbgDbgEbgFbf70",
  "bg1bg2bg3bg4bg5bg6bg7bg8bg9bgAbgBbgCbgDbgEbgFbf80bg1bg2bg3bg4bg5bg6bg7bg8bg9bgAbgBbgCbgDbgEbgF",
  "bf90bg1bg2bg3bg4bg5bg6bg7bg8bg9bgAbgBbgCbgDbgEbgFbfA0bg1bg2bg3bg4bg5bg6bg7bg8bg9bgAbgBbgCbgDbg",
  "EbgFbfB0bg1bg2bg3bg4bg5bg6bg7bg8bg9bgAbgBbgCbgDbgEbgFbfC0bg1bg2bg3bg4bg5bg6bg7bg8bg9bgAbgBbgCb",
  "gDbgEbgFbfD0bg1bg2bg3bg4bg5bg6bg7bg8bg9bgAbgBbgCbgDbgEbgFbfE0bg1bg2bg3bg4bg5bg6bg7bg8bg9bgAbgB",
  "bgCbgDbgEbgFbfF0bg1bg2bg3bg4bg5bg6bg7bg8bg9bgAbgBbgCbgDbgEbgFbeA00bg1bg2bg3bg4bg5bg6bg7bg8bg9b",
  "gAbgBbgCbgDbgEbgFbf10bg1bg2bg3bg4bg5bg6bg7bg8bg9bgAbgBbgCbgD@E0001aaLANGUAGE TAG@E0020aaTAG SP",
  "ACEaeEXCLAMATION MARKaeQUOTATION MARKaeNUMBER SIGNaeDOLLAR SIGNaePERCENT SIGNaeAMPERSANDafPOST",
  "ROPHEaeLEFT PARENTHESISaeRIGHT PARENTHESISaeASTERISKaePLUS SIGNaeCOMMAaeHYPHEN-MINUSaeFULL STO",
  "PaeSOLIDUSaeDIGIT ZEROakONEakTWOalHREEakFOURalIVEakSIXalEVENakEIGHTakNINEaeCOLONaeSEMICOLONaeL",
  "ESS-THAN SIGNaeEQUALS SIGNaeGREATER-THAN SIGNaeQUESTION MARKaeCOMMERCIAL ATaeLATIN CAPITAL LET",
  "TER AazBazCazDazEazFazGazHazIazJazKazLazMazNazOazPazQazRazSazTazUazVazWazXazYazZafEFT SQUARE B",
  "RACKETaeREVERSE SOLIDUSafIGHT SQUARE BRACKETaeCIRCUMFLEX ACCENTaeLOW LINEaeGRAVE ACCENTaeLATIN",
  " SMALL LETTER AaxBaxCaxDaxEaxFaxGaxHaxIaxJaxKaxLaxMaxNaxOaxPaxQaxRaxSaxTaxUaxVaxWaxXaxYaxZafEF",
  "T CURLY BRACKETaeVERTICAL LINEaeRIGHT CURLY BRACKETaeTILDEaaCANCEL TAG@E0100aaVARIATION SELECT",
  "OR-17au8au9at20au1au2au3au4au5au6au7au8au9at30au1au2au3au4au5au6au7au8au9at40au1au2au3au4au5au",
  "6au7au8au9at50au1au2au3au4au5au6au7au8au9at60au1au2au3au4au5au6au7au8au9at70au1au2au3au4au5au6",
  "au7au8au9at80au1au2au3au4au5au6au7au8au9at90au1au2au3au4au5au6au7au8au9at100av1av2av3av4av5av6",
  "av7av8av9au10av1av2av3av4av5av6av7av8av9au20av1av2av3av4av5av6av7av8av9au30av1av2av3av4av5av6a",
  "v7av8av9au40av1av2av3av4av5av6av7av8av9au50av1av2av3av4av5av6av7av8av9au60av1av2av3av4av5av6av",
  "7av8av9au70av1av2av3av4av5av6av7av8av9au80av1av2av3av4av5av6av7av8av9au90av1av2av3av4av5av6av7",
  "av8av9at200av1av2av3av4av5av6av7av8av9au10av1av2av3av4av5av6av7av8av9au20av1av2av3av4av5av6av7",
  "av8av9au30av1av2av3av4av5av6av7av8av9au40av1av2av3av4av5av6av7av8av9au50av1av2av3av4av5av6"]

end EntityGen.Text.CharName
