/-! Names of characters: syllabaries, shorthand, music and mathematics. -/

namespace EntityGen.Text.CharName

/-- Names by code point, in the form that `CharName.find?` reads. -/
def notationNames : List String := [
  "@1B000aaKATAKANA LETTER ARCHAIC EaaHIRAGANA LETTER ARCHAIC YEabENTAIGANA LETTER A-1au2au3auWOa",
  "sI-1au2au3au4asU-1au2au3au4au5asE-2au3au4au5au6asO-1au2au3asKA-1av2av3av4av5av6av7av8av9av10aw",
  "1avKEatI-1av2av3av4av5av6av7av8atU-1av2av3av4av5av6av7atE-1av2av3av4av5av6atO-1av2av3avKIasSA-",
  "1av2av3av4av5av6av7av8atI-1av2av3av4av5av6atU-1av2av3av4av5av6av7av8atE-1av2av3av4av5atO-1av2a",
  "v3av4av5av6av7asTA-1av2av3av4atI-1av2av3av4av5av6av7atU-1av2av3av4avTOatE-1av2av3av4av5av6av7a",
  "v8av9atO-1av2av3av4av5av6avRAasNA-1av2av3av4av5av6av7av8av9atI-1av2av3av4av5av6av7avTEatU-1av2",
  "av3atE-1av2av3av4av5av6avKOatO-1av2av3av4av5asHA-1av2av3av4av5av6av7av8av9av10aw1atI-1av2av3av",
  "4av5av6av7atU-1av2av3atE-1av2av3av4av5av6av7atO-1av2av3av4av5av6av7av8asMA-1av2av3av4av5av6av7",
  "atI-1av2av3av4av5av6av7atU-1av2av3av4atE-1av2avMAatO-1av2av3av4av5av6asYA-1av2av3av4av5avYOatU",
  "-1av2av3av4atO-1av2av3av4av5av6asRA-1av2av3av4atI-1av2av3av4av5av6av7atU-1av2av3av4av5av6atE-1",
  "av2av3av4atO-1av2av3av4av5av6asWA-1av2av3av4av5atI-1av2av3av4av5atE-1av2av3av4atO-1av2av3av4av",
  "5av6av7asN-MU-MO-1ba2abIRAGANA LETTER ARCHAIC WUaaKATAKANA LETTER ARCHAIC YIazEayWU@1B150aaHIR",
  "AGANA LETTER SMALL WIaxEaxO@1B164aaKATAKANA LETTER SMALL WIaxEaxOawN@1B170aaNUSHU CHARACTER-1B",
  "170au1au2au3au4au5au6au7au8au9auAauBauCauDauEauFat80au1au2au3au4au5au6au7au8au9auAauBauCauDauE",
  "auFat90au1au2au3au4au5au6au7au8au9auAauBauCauDauEauFatA0au1au2au3au4au5au6au7au8au9auAauBauCau",
  "DauEauFatB0au1au2au3au4au5au6au7au8au9auAauBauCauDauEauFatC0au1au2au3au4au5au6au7au8au9auAauBa",
  "uCauDauEauFatD0au1au2au3au4au5au6au7au8au9auAauBauCauDauEauFatE0au1au2au3au4au5au6au7au8au9auA",
  "auBauCauDauEauFatF0au1au2au3au4au5au6au7au8au9auAauBauCauDauEauFas200au1au2au3au4au5au6au7au8a",
  "u9auAauBauCauDauEauFat10au1au2au3au4au5au6au7au8au9auAauBauCauDauEauFat20au1au2au3au4au5au6au7",
  "au8au9auAauBauCauDauEauFat30au1au2au3au4au5au6au7au8au9auAauBauCauDauEauFat40au1au2au3au4au5au",
  "6au7au8au9auAauBauCauDauEauFat50au1au2au3au4au5au6au7au8au9auAauBauCauDauEauFat60au1au2au3au4a",
  "u5au6au7au8au9auAauBauCauDauEauFat70au1au2au3au4au5au6au7au8au9auAauBauCauDauEauFat80au1au2au3",
  "au4au5au6au7au8au9auAauBauCauDauEauFat90au1au2au3au4au5au6au7au8au9auAauBauCauDauEauFatA0au1au",
  "2au3au4au5au6au7au8au9auAauBauCauDauEauFatB0au1au2au3au4au5au6au7au8au9auAauBauCauDauEauFatC0a",
  "u1au2au3au4au5au6au7au8au9auAauBauCauDauEauFatD0au1au2au3au4au5au6au7au8au9auAauBauCauDauEauFa",
  "tE0au1au2au3au4au5au6au7au8au9auAauBauCauDauEauFatF0au1au2au3au4au5au6au7au8au9auAauB@1BC00aaD",
  "UPLOYAN LETTER HaqXaqPaqTaqFaqKaqLaqBaqDaqVaqGaqRaqP NaqD SaqF NaqK MaqR SaqTHaqSLOAN DHaqDHaq",
  "KKaqSLOAN JaqHLaqLHaqRHaqMaqNaqJaqSaqM NaqN MaqJ MaqS JaqM WITH DOTaqN WITH DOTaqJ WITH DOTbaS",
  " INSIDE AND ABOVEaqS WITH DOTba BELOWaqM SaqN SaqJ SaqS SaqM N SaqN M SaqJ M SaqS J SaqJ S WIT",
  "H DOTasNat SaqS Tat RasPat RaqT SasR SaqWarHar RaqS NasMaqK R SaqG R SaqS Kat RaqAaqSLOAN OWaq",
  "OAaraqAOUaqIaqEaqIEaqSHORT IaqUIaqEEaqSLOAN EHaqROMANIAN IaqSLOAN EEaqLONG IaqYEaqUaqEUaqXWaqU",
  " NaqLONG UaqROMANIAN UaqUHaqSLOAN UaqOOHarWarUaqWAarOarIarEIarOWaqNASAL UawOawIawAaqPERNIN ANa",
  "yMaqSLOAN ENawANawONaqVOCALIC M@1BC70ajAFFIX LEFT HORIZONTAL SECANTapMID HORIZONTAL SECANTapRI",
  "GHT HORIZONTAL SECANTapLOW VERTICAL SECANTapMID VERTICAL SECANTapHIGH VERTICAL SECANTapATTACHE",
  "D SECANTayLEFT-TO-RIGHT SECANTayTANGENTbaILayE HOOKayI HOOKayTANGENT HOOK@1BC80apHIGH ACUTEauT",
  "IGHT ACUTEauGRAVEauLONG GRAVEauDOTauCIRCLEauLINEauWAVEauVERTICAL@1BC90apLOW ACUTEatTIGHT ACUTE",
  "atGRAVEatLONG GRAVEatDOTatCIRCLEatLINEatWAVEatVERTICALatARROW@1BC9CajSIGN O WITH CROSSajTHICK ",
  "LETTER SELECTORajDOUBLE MARKajPUNCTUATION CHINOOK FULL STOPaaSHORTHAND FORMAT LETTER OVERLAPar",
  "CONTINUING OVERLAParDOWN STEParUP STEP@1CF00aaZNAMENNY COMBINING MARK GORAZDO NIZKO S KRYZHEM ",
  "ON LEFTayNIZKO S KRYZHEM ON LEFTayTSATA ON LEFTayGORAZDO NIZKO ON LEFTayNIZKO ON LEFTaySREDNE ",
  "ON LEFTayMALO POVYSHE ON LEFTayPOVYSHE ON LEFTayVYSOKO ON LEFTayMALO POVYSHE S KHOKHLOM ON LEF",
  "TayPOVYSHE S KHOKHLOM ON LEFTayVYSOKO S KHOKHLOM ON LEFTayGORAZDO NIZKO S KRYZHEM ON RIGHTayNI",
  "ZKO S KRYZHEM ON RIGHTayTSATA ON RIGHTayGORAZDO NIZKO ON RIGHTayNIZKO ON RIGHTaySREDNE ON RIGH",
  "TayMALO POVYSHE ON RIGHTayPOVYSHE ON RIGHTayVYSOKO ON RIGHTayMALO POVYSHE S KHOKHLOM ON RIGHTa",
  "yPOVYSHE S KHOKHLOM ON RIGHTayVYSOKO S KHOKHLOM ON RIGHTayTSATA S KRYZHEMayMALO POVYSHE S KRYZ",
  "HEMaySTRANNO MALO POVYSHEayPOVYSHE S KRYZHEMbhTRANNOayVYSOKO S KRYZHEMayMALO POVYSHE STRANNOay",
  "GORAZDO VYSOKOayZELOayONayRAVNOayTIKHAYAayBORZAYAayUDARKAayPODVERTKAayLOMKAayKUPNAYAazACHKAayZ",
  "EVOKaySKOBAayRAZSEKAayKRYZH ON LEFT@1CF30atTONAL RANGE MARK MRACHNObkSVETLObkTRESVETLOatMARK Z",
  "ADERZHKAayDEMESTVENNY ZADERZHKAayOTSECHKAayPODCHASHIEbi WITH VERTICAL STROKEayCHASHKAbf POLNAY",
  "AayOBLACHKOaySOROCHYA NOZHKAayTOCHKAayDVOETOCHIEatATTACHING VERTICAL OMETatMARK CURVED OMETayK",
  "RYZHatLOWER TONAL RANGE INDICATORajPRIZNAK MODIFIER LEVEL-2bg3baDIRECTION FLIPbaKRYZHbaROG@1CF",
  "50ajNEUME KRYUKau TIKHYapPARAKLITapDVA V CHELNUapKLYUCHapZANOZHEKapSTOPITSAax S OCHKOMapPEREVO",
  "DKAay NEPOSTOYANNAYAapSTOPITSA WITH SOROCHYA NOZHKAapCHELYUSTKAapPALKAapZAPYATAYAapGOLUBCHIK B",
  "ORZYazTIKHYazMRACHNYazSVETLYazTRESVETLYapVRAKHIYA PROSTAYAayMRACHNAYAaySVETLAYAayTRESVETLAYAay",
  "KLYUCHEVAYA PROSTAYAbkMRACHNAYAbkSVETLAYAbkTRESVETLAYAapDOUBLE ZAPYATAYAapREVERSED CHELYUSTKAa",
  "pDERBITSAapKHAMILOapCHASHKAapPODCHASHIEapSKAMEYTSA MRACHNAYAazSVETLAYAazTRESVETLAYAbaIKHAYAapD",
  "EMESTVENNY KLYUCHapSKAMEYTSA KLYUCHEVAYA SVETLAYAbgNEPOSTOYANNAYAbgVAYA TIKHAYAazDVOECHELNAYA ",
  "PROSTAYAbmSVETLAYAbmNEPOSTOYANNAYAbmKLYUCHEVAYAaqLOZHITIEay S ZAPYATOYazZAKRYTOEazS KRYZHEMapK",
  "RYZHapROGapFITAapKOBYLAapZMEYTSAapSTATYAav S ZAPYATOYayKRYZHEMayZAPYATOY I KRYZHEMayKRYZHEM I ",
  "ZAPYATOYawZAKRYTAYAbf S ZAPYATOYawS ROGOMayDVUMYA ZAPYATYMIayZAPYATOY I PODCHASHIEMapPOLKULIZM",
  "YapSTATYA NEPOSTOYANNAYAarRELA PROSTAYAawMRACHNOTIKHAYAawKRYZHEVAYAawPOLUPOVODNAYAayVODNAYAawN",
  "EPOSTOYANNAYAawKLYUCHEPOVODNAYAbdNEPOSTOYANNAYAawTIKHAYA PUTNAYAawDVOECHELNAYAbfOKRYZHEVAYAbgP",
  "OVODNAYAbfAYA KLYUCHEVAYAbfOPOVODNAYA KLYUCHEVAYAawGROMNAYA WITH SINGLE ZAPYATAYAbaOPOVODNAYA ",
  "WITH SINGLE ZAPYATAYAbaNAYAbaOPOVODNAYAbk WITH DOUBLE ZAPYATAYAbbKRYZHEVAYAbl POVODNAYAapMECHI",
  "Kav POVODNYawKLYUCHEVOYbdPOVODNYbdNEPOSTOYANNYapSTRELA TRYASOGLASNAYAbcPOVODNAYAbcSTRELNAYAapO",
  "SOKAau SVETLAYAavTRESVETLAYAavKRYUKOVAYA SVETLAYAawLYUCHEVAYA SVETLAYAbhNEPOSTOYANNAYAapSTRELA",
  " KRYUKOVAYAbg POVODNAYAbhGROMNAYA WITH SINGLE ZAPYATAYAblOPOVODNAYA WITH SINGLE ZAPYATAYAblNAY",
  "AblOPOVODNAYAbv WITH DOUBLE ZAPYATAYAbmKRYZHEVAYAbw POVODNAYAbhTRYASKAapKUFISMAapOBLAKOapDUDAa",
  "pNEMKAapPAUK@1D000aaBYZANTINE MUSICAL SYMBOL PSILIazDASEIAazPERISPOMENIazOXEIA EKFONITIKONbfDI",
  "PLIazVAREIA EKFONITIKONbgDIPLIazKATHISTIazSYRMATIKIazPARAKLITIKIazYPOKRISISbi DIPLIazKREMASTIa",
  "zAPESO EKFONITIKONazEXO EKFONITIKONazTELEIAazKENTIMATAazAPOSTROFOSbj DIPLIazSYNEVMAazTHITAazOL",
  "IGON ARCHAIONazGORGON ARCHAIONazPSILONazCHAMILONazVATHYazISON ARCHAIONazKENTIMA ARCHAIONbgTA A",
  "RCHAIONazSAXIMATAazPARICHONazSTAVROS APODEXIAazOXEIAI ARCHAIONazVAREIAI ARCHAIONazAPODERMA ARC",
  "HAIONbcTHEMAazKLASMAazREVMAazPIASMA ARCHAIONazTINAGMAazANATRICHISMAazSEISMAbaYNAGMA ARCHAIONbh",
  "META STAVROUazOYRANISMA ARCHAIONazTHEMAazLEMOIazDYOazTRIAbaESSERAazKRATIMATAazAPESO EXO NEOazF",
  "THORA ARCHAIONazIMIFTHORAazTROMIKON ARCHAIONazKATAVA TROMIKONazPELASTONbaSIFISTONazKONTEVMAazC",
  "HOREVMA ARCHAIONazRAPISMAazPARAKALESMA ARCHAIONbeLITIKI ARCHAIONazICHADINazNANAazPETASMAazKONT",
  "EVMA ALLOazTROMIKON ALLOazSTRAGGISMATAazGRONTHISMATAazISON NEOazOLIGON NEObaXEIA NEOazPETASTIa",
  "zKOUFISMAazPETASTOKOUFISMAazKRATIMOKOUFISMAazPELASTON NEOazKENTIMATA NEO ANObg NEO ANOazYPSILI",
  "azAPOSTROFOS NEObiI SYNDESMOS NEOazYPORROIazKRATIMOYPORROONazELAFRONazCHAMILIazMIKRON ISONazVA",
  "REIA NEOazPIASMA NEObaSIFISTON NEOazOMALONazANTIKENOMAazLYGISMAazPARAKLITIKI NEObeALESMA NEOaz",
  "ETERON PARAKALESMAazKYLISMAazANTIKENOKYLISMAazTROMIKON NEOazEKSTREPTONazSYNAGMA NEObbRMAazCHOR",
  "EVMA NEOazEPEGERMAazSEISMA NEOazXIRON KLASMAazTROMIKOPSIFISTONazPSIFISTOLYGISMAazTROMIKOLYGISM",
  "AbgPARAKALESMAazPSIFISTOPARAKALESMAazTROMIKOSYNAGMAazPSIFISTOSYNAGMAazGORGOSYNTHETONazARGOSYNT",
  "HETONazETERON ARGOSYNTHETONazOYRANISMA NEOazTHEMATISMOS ESObmXObe APLOUNbcS KAI APOTHESazKATAV",
  "ASMAazENDOFONONazYFEN KATObeANOazSTAVROSazKLASMA ANOazDIPLI ARCHAIONazKRATIMA ARCHAIONbiLLObhN",
  "EOazAPODERMA NEObbLIazDIPLIazTRIPLIbaETRAPLIazKORONISazLEIMMA ENOS CHRONOUbgDYO CHRONONbgTRION",
  " CHRONONbhESSARON CHRONONbgIMISEOS CHRONOUazGORGON NEO ANObgPARESTIGMENON ARISTERAbuDEXIAazDIG",
  "ORGONbh PARESTIGMENON ARISTERA KATOcfANObwDEXIAazTRIGORGONazARGONazIMIDIARGONazDIARGONazAGOGI ",
  "POLI ARGIbfARGOTERIbiIbfMETRIAbhSIbfGORGIbjOTERIbfPOLI GORGIazMARTYRIA PROTOS ICHOSbiALLI PROT",
  "OS ICHOSbiDEYTEROS ICHOSbiALLI DEYTEROS ICHOSbiTRITOS ICHOSblFONIASbjETARTOS ICHOSbrLEGETOS IC",
  "HOSbiLEGETOS ICHOSbiPLAGIOS ICHOSazISAKIA TELOUS ICHIMATOSazAPOSTROFOI TELOUS ICHIMATOSazFANER",
  "OSIS TETRAFONIASbjMONOFONIASbjDIFONIASazMARTYRIA VARYS ICHOSbiPROTOVARYS ICHOSbjLAGIOS TETARTO",
  "S ICHOSazGORTHMIKON N APLOUNbmDIPLOUNazENARXIS KAI FTHORA VOUazIMIFONONbdTHORONazFTHORA ARCHAI",
  "ON DEYTEROU ICHOUbgDIATONIKI PAbqNANAbgNAOS ICHOSbgDIATONIKI DIbgSKLIRON DIATONON DIbgDIATONIK",
  "I KEbqZObqNI KATObtANObgMALAKON CHROMA DIFONIASbvMONOFONIASbaHTORA SKLIRON CHROMA VASISbaTHORA",
  " SKLIRON CHROMA SYNAFIbgNENANOazCHROA ZYGOSbfKLITONbfSPATHIazFTHORA I YFESIS TETARTIMORIONbgEN",
  "ARMONIOS ANTIFONIAazYFESIS TRITIMORIONazDIESIS TRITIMORIONbhETARTIMORIONbgAPLI DYO DODEKATAbgM",
  "ONOGRAMMOS TESSERA DODEKATAbgDIGRAMMOS EX DODEKATAbgTRIGRAMMOS OKTO DODEKATAazYFESIS APLI DYO ",
  "DODEKATAbgMONOGRAMMOS TESSERA DODEKATAbgDIGRAMMOS EX DODEKATAbgTRIGRAMMOS OKTO DODEKATAazGENIK",
  "I DIESISbgYFESISazDIASTOLI APLI MIKRIboEGALIbiDIPLIbiTHESEOSazSIMANSIS THESEOSbp DISIMOUbqTRIS",
  "IMOUbrETRASIMOUbiARSEOSbo DISIMOUbpTRISIMOUbqETRASIMOUazDIGRAMMA GGbbFTOGGOS OUazSTIGMAazARKTI",
  "KO PAbhVOUbhGAbhDIbhKEbhZObhNIazKENTIMATA NEO MESObg NEO MESObgTA NEO KATObg NEO KATObaLASMA K",
  "ATOazGORGON NEO KATO@1D100aaMUSICAL SYMBOL SINGLE BARLINEapDOUBLE BARLINEapFINAL BARLINEapREVE",
  "RSE FINAL BARLINEapDASHED BARLINEapSHORT BARLINEapLEFT REPEAT SIGNapRIGHT REPEAT SIGNaqEPEAT D",
  "OTSapDAL SEGNOar CAPOapSEGNOapCODAapREPEATED FIGURE-1bf2bf3apFERMATAaw BELOWapBREATH MARKapCAE",
  "SURAapBRACEatKETapONE-LINE STAFFapTWO-LINE STAFFaqHREE-LINE STAFFapFOUR-LINE STAFFaqIVE-LINE S",
  "TAFFapSIX-LINE STAFFatSTRING FRETBOARDapFOUR-STRING FRETBOARDapG CLEFav OTTAVA ALTAbdBASSAapC ",
  "CLEFapF CLEFav OTTAVA ALTAbdBASSAapDRUM CLEF-1az2@1D129apMULTIPLE MEASURE RESTapDOUBLE SHARPaw",
  "FLATapFLAT UPauDOWNapNATURAL UPaxDOWNapSHARP UPavDOWNapQUARTER TONE SHARPbcFLATapCOMMON TIMEaq",
  "UT TIMEapOTTAVA ALTAawBASSAapQUINDICESIMA ALTAbcBASSAapMULTI RESTapWHOLE RESTapHALF RESTapQUAR",
  "TER RESTapEIGHTH RESTapSIXTEENTH RESTapTHIRTY-SECOND RESTapSIXTY-FOURTH RESTapONE HUNDRED TWEN",
  "TY-EIGHTH RESTapX NOTEHEADapPLUS NOTEHEADapCIRCLE X NOTEHEADapSQUARE NOTEHEAD WHITEbfBLACKapTR",
  "IANGLE NOTEHEAD UP WHITEbkBLACKbhLEFT WHITEbmBLACKbhRIGHT WHITEbnBLACKbhDOWN WHITEbmBLACKbhUP ",
  "RIGHT WHITEbqBLACKapMOON NOTEHEAD WHITEbdBLACKapTRIANGLE-ROUND NOTEHEAD DOWN WHITEbsBLACKapPAR",
  "ENTHESIS NOTEHEADapVOID NOTEHEADapNOTEHEAD BLACKaqULL NOTEHEADapCLUSTER NOTEHEAD WHITEbgBLACKa",
  "pBREVEapWHOLE NOTEapHALF NOTEapQUARTER NOTEapEIGHTH NOTEapSIXTEENTH NOTEapTHIRTY-SECOND NOTEap",
  "SIXTY-FOURTH NOTEapONE HUNDRED TWENTY-EIGHTH NOTEapCOMBINING STEMbaPRECHGESANG STEMazTREMOLO-1",
  "bh2bh3apFINGERED TREMOLO-1bg2bg3apCOMBINING AUGMENTATION DOTazFLAG-1be2be3be4be5apBEGIN BEAMap",
  "END BEAMapBEGIN TIEapEND TIEapBEGIN SLURapEND SLURapBEGIN PHRASEapEND PHRASEapCOMBINING ACCENT",
  "azSTACCATOazTENUTOazSTACCATISSIMOazMARCATObg-STACCATOazACCENT-STACCATOazLOUREapARPEGGIATO UPba",
  "DOWNapCOMBINING DOITazRIPazFLIPazSMEARazBENDazDOUBLE TONGUEazTRIPLE TONGUEapRINFORZANDOapSUBIT",
  "OapZapPIANOapMEZZOapFORTEapCRESCENDOapDECRESCENDOapGRACE NOTE SLASHbaNO SLASHapTRaqURNapINVERT",
  "ED TURNapTURN SLASHauUPapORNAMENT STROKE-1bf2bf3bf4bf5bf6bf7bf8bf9bf10bg1apHAUPTSTIMMEapNEBENS",
  "TIMMEapEND OF STIMMEapDEGREE SLASHapCOMBINING DOWN BOWazUP BOWazHARMONICazSNAP PIZZICATOapPEDA",
  "L MARKavUP MARKapHALF PEDAL MARKapGLISSANDO UPazDOWNapWITH FINGERNAILSapDAMPat ALLapMAXIMAapLO",
  "NGAapBREVISapSEMIBREVIS WHITEbaBLACKapMINIMAav BLACKapSEMIMINIMA WHITEbaBLACKapFUSA WHITEauBLA",
  "CKapLONGA PERFECTA RESTavIMPERFECTA RESTapBREVIS RESTapSEMIBREVIS RESTapMINIMA RESTapSEMIMINIM",
  "A RESTapTEMPUS PERFECTUM CUM PROLATIONE PERFECTAbvIMPERFECTAbvPERFECTA DIMINUTION-1awIMPERFECT",
  "UM CUM PROLATIONE PERFECTAbxIMPERFECTAch DIMINUTION-1ct2ct3apCROIXapGREGORIAN C CLEFazF CLEFap",
  "SQUARE BapVIRGAapPODATUSapCLIVISapSCANDICUSapCLIMACUSapTORCULUSapPORRECTUSay FLEXUSapSCANDICUS",
  " FLEXUSapTORCULUS RESUPINUSapPES SUBPUNCTISapKIEVAN C CLEFawEND OF PIECEawFINAL NOTEawRECITATI",
  "VE MARKawWHOLE NOTEawHALF NOTEawQUARTER NOTE STEM DOWNboUPawEIGHTH NOTE STEM DOWNbnUPawFLAT SI",
  "GNapSORIapKORON@1D200aaGREEK VOCAL NOTATION SYMBOL-1bc2bc3bc4bc5bc6bc7bc8bc9bc10bd1bd2bd3bd4bd",
  "5bd6bd7bd8bd9bc20bd1bd2bd3bd4bc50bd1bd2bd3bd4agINSTRUMENTAL NOTATION SYMBOL-1bj2bj4bj5bj7bj8bj",
  "11bk2bk3bk4bk7bk8bk9bj23bk4bk5bk6bk7bk9bj30bk2bk6bk7bk8bk9bj40bk2bk3bk5bk7bk8bk9bj50bk1bk2bk3b",
  "k4aaCOMBINING GREEK MUSICAL TRISEMEazETRASEMEayPENTASEMEaaGREEK MUSICAL LEIMMA@1D2E0aaMAYAN NU",
  "MERAL ZEROaoONEaoTWOapHREEaoFOURapIVEaoSIXapEVENaoEIGHTaoNINEaoTENaoELEVENaoTWELVEapHIRTEENaoF",
  "OURTEENapIFTEENaoSIXTEENapEVENTEENaoEIGHTEENaoNINETEEN@1D300abONOGRAM FOR EARTHaaDIGRAM FOR HE",
  "AVENLY EARTHamUMAN EARTHalEARTHLY HEAVENauUMANaqaaTETRAGRAM FOR CENTREaoFULL CIRCLEaoMIREDaoBA",
  "RRIERaoKEEPING SMALLaoCONTRARIETYaoASCENTaoOPPOSITIONaoBRANCHING OUTaoDEFECTIVENESS OR DISTORT",
  "IONapIVERGENCEaoYOUTHFULNESSaoINCREASEaoPENETRATIONaoREACHaoCONTACTaoHOLDING BACKaoWAITINGaoFO",
  "LLOWINGaoADVANCEaoRELEASEaqSISTANCEaoEASEaoJOYaoCONTENTIONaoENDEAVOURaoDUTIESaoCHANGEaoDECISIV",
  "ENESSaoBOLD RESOLUTIONaoPACKINGaoLEGIONaoCLOSENESSaoKINSHIPaoGATHERINGaoSTRENGTHaoPURITYaoFULL",
  "NESSaoRESIDENCEaoLAW OR MODELaoRESPONSEaoGOING TO MEETaoENCOUNTERSaoSTOVEaoGREATNESSaoENLARGEM",
  "ENTaoPATTERNaoRITUALaoFLIGHTaoVASTNESS OR WASTINGaoCONSTANCYaoMEASUREaoETERNITYaoUNITYaoDIMINI",
  "SHMENTaoCLOSED MOUTHaoGUARDEDNESSapATHERING INaoMASSINGaoACCUMULATIONaoEMBELLISHMENTaoDOUBTaoW",
  "ATCHaoSINKINGaoINNERaoDEPARTUREapARKENINGapIMMINGaoEXHAUSTIONaoSEVERANCEapTOPPAGEaoHARDNESSaoC",
  "OMPLETIONapLOSUREaoFAILUREaoAGGRAVATIONaoCOMPLIANCEaoON THE VERGEaoDIFFICULTIESaoLABOURINGaoFO",
  "STERING@1D360aaCOUNTING ROD UNIT DIGIT ONEayTWOazHREEayFOURazIVEaySIXazEVENayEIGHTayNINEanTENS",
  " DIGIT ONEayTWOazHREEayFOURazIVEaySIXazEVENayEIGHTayNINEaaIDEOGRAPHIC TALLY MARK ONEaxTWOayHRE",
  "EaxFOURayIVEaaTALLY MARK ONEalFIVE@1D400aaMATHEMATICAL BOLD CAPITAL AbaBbaCbaDbaEbaFbaGbaHbaIb",
  "aJbaKbaLbaMbaNbaObaPbaQbaRbaSbaTbaUbaVbaWbaXbaYbaZasSMALL AayBayCayDayEayFayGayHayIayJayKayLay",
  "MayNayOayPayQayRaySayTayUayVayWayXayYayZanITALIC CAPITAL AbcBbcCbcDbcEbcFbcGbcHbcIbcJbcKbcLbcM",
  "bcNbcObcPbcQbcRbcSbcTbcUbcVbcWbcXbcYbcZauSMALL AbaBbaCbaDbaEbaFbaG@1D456baIbaJbaKbaLbaMbaNbaOb",
  "aPbaQbaRbaSbaTbaUbaVbaWbaXbaYbaZanBOLD ITALIC CAPITAL AbhBbhCbhDbhEbhFbhGbhHbhIbhJbhKbhLbhMbhN",
  "bhObhPbhQbhRbhSbhTbhUbhVbhWbhXbhYbhZazSMALL AbfBbfCbfDbfEbfFbfGbfHbfIbfJbfKbfLbfMbfNbfObfPbfQb",
  "fRbfSbfTbfUbfVbfWbfXbfYbfZanSCRIPT CAPITAL A@1D49EbcCbcD@1D4A2bcG@1D4A5bcJbcK@1D4A9bcNbcObcPbc",
  "Q@1D4AEbcSbcTbcUbcVbcWbcXbcYbcZauSMALL AbaBbaCbaD@1D4BBbaF@1D4BDbaHbaIbaJbaKbaLbaMbaN@1D4C5baP",
  "baQbaRbaSbaTbaUbaVbaWbaXbaYbaZanBOLD SCRIPT CAPITAL AbhBbhCbhDbhEbhFbhGbhHbhIbhJbhKbhLbhMbhNbh",
  "ObhPbhQbhRbhSbhTbhUbhVbhWbhXbhYbhZazSMALL AbfBbfCbfDbfEbfFbfGbfHbfIbfJbfKbfLbfMbfNbfObfPbfQbfR",
  "bfSbfTbfUbfVbfWbfXbfYbfZanFRAKTUR CAPITAL AbdB@1D507bdDbdEbdFbdG@1D50DbdJbdKbdLbdMbdNbdObdPbdQ",
  "@1D516bdSbdTbdUbdVbdWbdXbdY@1D51EavSMALL AbbBbbCbbDbbEbbFbbGbbHbbIbbJbbKbbLbbMbbNbbObbPbbQbbRb",
  "bSbbTbbUbbVbbWbbXbbYbbZanDOUBLE-STRUCK CAPITAL AbjB@1D53BbjDbjEbjFbjG@1D540bjIbjJbjKbjLbjM@1D5",
  "46bjO@1D54AbjSbjTbjUbjVbjWbjXbjY@1D552bbSMALL AbhBbhCbhDbhEbhFbhGbhHbhIbhJbhKbhLbhMbhNbhObhPbh",
  "QbhRbhSbhTbhUbhVbhWbhXbhYbhZanBOLD FRAKTUR CAPITAL AbiBbiCbiDbiEbiFbiGbiHbiIbiJbiKbiLbiMbiNbiO",
  "biPbiQbiRbiSbiTbiUbiVbiWbiXbiYbiZbaSMALL AbgBbgCbgDbgEbgFbgGbgHbgIbgJbgKbgLbgMbgNbgObgPbgQbgRb",
  "gSbgTbgUbgVbgWbgXbgYbgZanSANS-SERIF CAPITAL AbgBbgCbgDbgEbgFbgGbgHbgIbgJbgKbgLbgMbgNbgObgPbgQb",
  "gRbgSbgTbgUbgVbgWbgXbgYbgZaySMALL AbeBbeCbeDbeEbeFbeGbeHbeIbeJbeKbeLbeMbeNbeObePbeQbeRbeSbeTbe",
  "UbeVbeWbeXbeYbeZayBOLD CAPITAL AblBblCblDblEblFblGblHblIblJblKblLblMblNblOblPblQblRblSblTblUbl",
  "VblWblXblYblZbdSMALL AbjBbjCbjDbjEbjFbjGbjHbjIbjJbjKbjLbjMbjNbjObjPbjQbjRbjSbjTbjUbjVbjWbjXbjY",
  "bjZayITALIC CAPITAL AbnBbnCbnDbnEbnFbnGbnHbnIbnJbnKbnLbnMbnNbnObnPbnQbnRbnSbnTbnUbnVbnWbnXbnYb",
  "nZbfSMALL AblBblCblDblEblFblGblHblIblJblKblLblMblNblOblPblQblRblSblTblUblVblWblXblYblZayBOLD I",
  "TALIC CAPITAL AbsBbsCbsDbsEbsFbsGbsHbsIbsJbsKbsLbsMbsNbsObsPbsQbsRbsSbsTbsUbsVbsWbsXbsYbsZbkSM",
  "ALL AbqBbqCbqDbqEbqFbqGbqHbqIbqJbqKbqLbqMbqNbqObqPbqQbqRbqSbqTbqUbqVbqWbqXbqYbqZanMONOSPACE CA",
  "PITAL AbfBbfCbfDbfEbfFbfGbfHbfIbfJbfKbfLbfMbfNbfObfPbfQbfRbfSbfTbfUbfVbfWbfXbfYbfZaxSMALL AbdB",
  "bdCbdDbdEbdFbdGbdHbdIbdJbdKbdLbdMbdNbdObdPbdQbdRbdSbdTbdUbdVbdWbdXbdYbdZanITALIC SMALL DOTLESS",
  " IbiJ@1D6A8anBOLD CAPITAL ALPHAbaBETAbaGAMMAbaDELTAbaEPSILONbaZETAbaETAbaTHETAbaIOTAbaKAPPAbaL",
  "AMDAbaMUbaNUbaXIbaOMICRONbaPIbaRHObaTHETA SYMBOLbaSIGMAbaTAUbaUPSILONbaPHIbaCHIbaPSIbaOMEGAasN",
  "ABLAasSMALL ALPHAayBETAayGAMMAayDELTAayEPSILONayZETAayETAayTHETAayIOTAayKAPPAayLAMDAayMUayNUay",
  "XIayOMICRONayPIayRHOayFINAL SIGMAaySIGMAayTAUayUPSILONayPHIayCHIayPSIayOMEGAasPARTIAL DIFFEREN",
  "TIALasEPSILON SYMBOLasTHETA SYMBOLasKAPPA SYMBOLasPHI SYMBOLasRHO SYMBOLasPI SYMBOLanITALIC CA",
  "PITAL ALPHAbcBETAbcGAMMAbcDELTAbcEPSILONbcZETAbcETAbcTHETAbcIOTAbcKAPPAbcLAMDAbcMUbcNUbcXIbcOM",
  "ICRONbcPIbcRHObcTHETA SYMBOLbcSIGMAbcTAUbcUPSILONbcPHIbcCHIbcPSIbcOMEGAauNABLAauSMALL ALPHAbaB",
  "ETAbaGAMMAbaDELTAbaEPSILONbaZETAbaETAbaTHETAbaIOTAbaKAPPAbaLAMDAbaMUbaNUbaXIbaOMICRONbaPIbaRHO",
  "baFINAL SIGMAbaSIGMAbaTAUbaUPSILONbaPHIbaCHIbaPSIbaOMEGAauPARTIAL DIFFERENTIALauEPSILON SYMBOL",
  "auTHETA SYMBOLauKAPPA SYMBOLauPHI SYMBOLauRHO SYMBOLauPI SYMBOLanBOLD ITALIC CAPITAL ALPHAbhBE",
  "TAbhGAMMAbhDELTAbhEPSILONbhZETAbhETAbhTHETAbhIOTAbhKAPPAbhLAMDAbhMUbhNUbhXIbhOMICRONbhPIbhRHOb",
  "hTHETA SYMBOLbhSIGMAbhTAUbhUPSILONbhPHIbhCHIbhPSIbhOMEGAazNABLAazSMALL ALPHAbfBETAbfGAMMAbfDEL",
  "TAbfEPSILONbfZETAbfETAbfTHETAbfIOTAbfKAPPAbfLAMDAbfMUbfNUbfXIbfOMICRONbfPIbfRHObfFINAL SIGMAbf",
  "SIGMAbfTAUbfUPSILONbfPHIbfCHIbfPSIbfOMEGAazPARTIAL DIFFERENTIALazEPSILON SYMBOLazTHETA SYMBOLa",
  "zKAPPA SYMBOLazPHI SYMBOLazRHO SYMBOLazPI SYMBOLanSANS-SERIF BOLD CAPITAL ALPHAblBETAblGAMMAbl",
  "DELTAblEPSILONblZETAblETAblTHETAblIOTAblKAPPAblLAMDAblMUblNUblXIblOMICRONblPIblRHOblTHETA SYMB",
  "OLblSIGMAblTAUblUPSILONblPHIblCHIblPSIblOMEGAbdNABLAbdSMALL ALPHAbjBETAbjGAMMAbjDELTAbjEPSILON",
  "bjZETAbjETAbjTHETAbjIOTAbjKAPPAbjLAMDAbjMUbjNUbjXIbjOMICRONbjPIbjRHObjFINAL SIGMAbjSIGMAbjTAUb",
  "jUPSILONbjPHIbjCHIbjPSIbjOMEGAbdPARTIAL DIFFERENTIALbdEPSILON SYMBOLbdTHETA SYMBOLbdKAPPA SYMB",
  "OLbdPHI SYMBOLbdRHO SYMBOLbdPI SYMBOLbdITALIC CAPITAL ALPHAbsBETAbsGAMMAbsDELTAbsEPSILONbsZETA",
  "bsETAbsTHETAbsIOTAbsKAPPAbsLAMDAbsMUbsNUbsXIbsOMICRONbsPIbsRHObsTHETA SYMBOLbsSIGMAbsTAUbsUPSI",
  "LONbsPHIbsCHIbsPSIbsOMEGAbkNABLAbkSMALL ALPHAbqBETAbqGAMMAbqDELTAbqEPSILONbqZETAbqETAbqTHETAbq",
  "IOTAbqKAPPAbqLAMDAbqMUbqNUbqXIbqOMICRONbqPIbqRHObqFINAL SIGMAbqSIGMAbqTAUbqUPSILONbqPHIbqCHIbq",
  "PSIbqOMEGAbkPARTIAL DIFFERENTIALbkEPSILON SYMBOLbkTHETA SYMBOLbkKAPPA SYMBOLbkPHI SYMBOLbkRHO ",
  "SYMBOLbkPI SYMBOLanBOLD CAPITAL DIGAMMAasSMALL DIGAMMA@1D7CEasDIGIT ZEROayONEayTWOazHREEayFOUR",
  "azIVEaySIXazEVENayEIGHTayNINEanDOUBLE-STRUCK DIGIT ZERObhONEbhTWObiHREEbhFOURbiIVEbhSIXbiEVENb",
  "hEIGHTbhNINEanSANS-SERIF DIGIT ZERObeONEbeTWObfHREEbeFOURbfIVEbeSIXbfEVENbeEIGHTbeNINEayBOLD D",
  "IGIT ZERObjONEbjTWObkHREEbjFOURbkIVEbjSIXbkEVENbjEIGHTbjNINEanMONOSPACE DIGIT ZERObdONEbdTWObe",
  "HREEbdFOURbeIVEbdSIXbeEVENbdEIGHTbdNINEaaSIGNWRITING HAND-FIST INDEXarCIRCLE INDEXasUP INDEXar",
  "OVAL INDEXarHINGE INDEXarANGLE INDEXarFIST INDEX BENTarCIRCLE INDEX BENTarFIST THUMB UNDER IND",
  "EX BENTawINDEX RAISED KNUCKLEbcCUPPEDbcHINGEDbi LOWarCIRCLE INDEX HINGEarFIST INDEX MIDDLEarCI",
  "RCLE INDEX MIDDLEarFIST INDEX MIDDLE BENTbjRAISED KNUCKLESbjHINGEDbcUP MIDDLE HINGEDbcHINGED M",
  "IDDLE UPbcMIDDLE CONJOINEDbs INDEX BENTbtMIDDLE BENTbtCUPPEDbtHINGEDbkROSSEDarCIRCLE INDEX MID",
  "DLE CROSSEDarFIST MIDDLE BENT OVER INDEXawINDEX BENT OVER MIDDLEbcMIDDLE THUMBarCIRCLE INDEX M",
  "IDDLE THUMBarFIST INDEX MIDDLE STRAIGHT THUMB BENTbjBENT THUMB STRAIGHTbjTHUMB BENTbjHINGED SP",
  "READ THUMB SIDEbcUP MIDDLE HINGED THUMB SIDEbzCONJOINEDbcHINGED MIDDLE UP THUMB SIDEbcMIDDLE U",
  "P SPREAD THUMB FORWARDbjTHUMB CUPPEDbqIRCLEDbpHOOKEDbqINGEDawTHUMB BETWEEN INDEX MIDDLE STRAIG",
  "HTawINDEX MIDDLE CONJOINED THUMB SIDEcd CONJOINEDceBENTawMIDDLE THUMB HOOKED INDEX UPawINDEX T",
  "HUMB HOOKED MIDDLE UPbcMIDDLE CONJOINED HINGED THUMB SIDEbkROSSED THUMB SIDEbkONJOINED THUMB F",
  "ORWARDbtCUPPED THUMB FORWARDawMIDDLE THUMB CUPPED INDEX UPawINDEX THUMB CUPPED MIDDLE UPawMIDD",
  "LE THUMB CIRCLED INDEX UPbxHINGEDawINDEX THUMB ANGLED OUT MIDDLE UPbpIN MIDDLE UPbiCIRCLED MID",
  "DLE UPbcMIDDLE THUMB CONJOINED HINGEDbpANGLED OUTbvawMIDDLE THUMB ANGLED OUT INDEX UPcaCROSSED",
  "bqINDEX UPawINDEX THUMB HOOKED MIDDLE HINGEDasLAT FOUR FINGERSbi BENTbjHINGEDbjCONJOINEDbs SPL",
  "ITarCLAW FOUR FINGERS CONJOINEDarFIST FOUR FINGERS CONJOINED BENTarHINGE FOUR FINGERS CONJOINE",
  "DarFLAT FIVE FINGERS SPREADawHEEL FIVE FINGERS SPREADawFIVE FINGERS SPREAD FOUR BENTawHEEL FIV",
  "E FINGERS SPREAD FOUR BENTawFIVE FINGERS SPREAD BENTawHEEL FIVE FINGERS SPREAD BENTawFIVE FING",
  "ERS SPREAD THUMB FORWARDarCUP FIVE FINGERS SPREADbo OPENarHINGE FIVE FINGERS SPREAD OPENarOVAL",
  " FIVE FINGERS SPREADarFLAT FIVE FINGERS SPREAD HINGEDbw THUMB SIDEbxNO THUMBavav BETWEEN PALM ",
  "FACINGSawHEELawTHUMB SIDEawHEEL THUMB SIDEawTHUMB BENTbcFORWARDawSPLIT INDEX THUMB SIDEbcCENTR",
  "Ebi THUMB SIDEbt BENTbcLITTLEarCLAWav THUMB SIDEawNO THUMBawTHUMB FORWARDarHOOK CURLICUEavarCU",
  "P OPENauau OPEN THUMB SIDEavTHUMB SIDEavOPEN NO THUMBavNO THUMBavOPEN THUMB FORWARDavTHUMB FOR",
  "WARDatRLICUE OPENazasIRCLEarOVALav THUMB SIDEawNO THUMBawTHUMB FORWARDarHINGE OPENbb THUMB FOR",
  "WARDawaw SMALLaxOPEN THUMB SIDEaxTHUMB SIDEaxOPEN NO THUMBaxNO THUMBaxTHUMB SIDE TOUCHING INDE",
  "XbdBETWEEN MIDDLE RINGarANGLEarFIST INDEX MIDDLE RINGarCIRCLE INDEX MIDDLE RINGarHINGE INDEX M",
  "IDDLE RINGarANGLE INDEX MIDDLE RINGarHINGE LITTLEarFIST INDEX MIDDLE RING BENTboCONJOINEDarHIN",
  "GE INDEX MIDDLE RING CONJOINEDarFIST LITTLE DOWNbh RIPPLE STRAIGHTbpCURVEDbiOTHERS CIRCLEDbdUP",
  "awTHUMB UNDER LITTLE UParCIRCLE LITTLE UParOVAL LITTLE UParANGLE LITTLE UParFIST LITTLE RAISED",
  " KNUCKLEbdBENTbdTOUCHES THUMBbeHUMBarHINGE LITTLE THUMBarFIST LITTLE INDEX THUMBarHINGE LITTLE",
  " INDEX THUMBarANGLE LITTLE INDEX THUMB INDEX THUMB OUTcbarFIST LITTLE INDEXarCIRCLE LITTLE IND",
  "EXarHINGE LITTLE INDEXarANGLE LITTLE INDEXarFIST INDEX MIDDLE LITTLEarCIRCLE INDEX MIDDLE LITT",
  "LEarHINGE INDEX MIDDLE LITTLEaxRINGarANGLE INDEX MIDDLE LITTLEarFIST INDEX MIDDLE CROSS LITTLE",
  "arCIRCLE INDEX MIDDLE CROSS LITTLEarFIST RING DOWNarHINGE RING DOWN INDEX THUMB HOOK MIDDLEarA",
  "NGLE RING DOWN MIDDLE THUMB INDEX CROSSarFIST RING UPbbRAISED KNUCKLEbbLITTLEarCIRCLE RING LIT",
  "TLEarOVAL RING LITTLEarANGLE RING LITTLEarFIST RING MIDDLEbh CONJOINEDbiRAISED KNUCKLESbbINDEX",
  "bbTHUMBarHOOK RING THUMBarFIST INDEX RING LITTLEarCIRCLE INDEX RING LITTLEasURLICUE INDEX RING",
  " LITTLE ONarHOOK INDEX RING LITTLE OUTboINboUNDERarCUP INDEX RING LITTLEarHINGE INDEX RING LIT",
  "TLEarANGLE INDEX RING LITTLE OUTboarFIST MIDDLE DOWNarHINGE MIDDLEarFIST MIDDLE UParCIRCLE MID",
  "DLE UParFIST MIDDLE RAISED KNUCKLEbdUP THUMB SIDEarHOOK MIDDLE THUMBarFIST MIDDLE THUMB LITTLE",
  "bdLITTLEbdRING LITTLEarCIRCLE MIDDLE RING LITTLEasURLICUE MIDDLE RING LITTLE ONatP MIDDLE RING",
  " LITTLEarHINGE MIDDLE RING LITTLEarANGLE MIDDLE RING LITTLE OUTbqINbparCIRCLE MIDDLE RING LITT",
  "LE BENTasLAW MIDDLE RING LITTLE CONJOINEDby SIDEarHOOK MIDDLE RING LITTLE CONJOINED OUTbzINbya",
  "sINGE INDEX HINGEDarFIST INDEX THUMB SIDEarHINGE INDEX THUMB SIDEarFIST INDEX THUMB SIDE THUMB",
  " DIAGONALbtCONJOINEDbtBENTbnINDEX BENTbnBOTH BENTbnINDEX HINGEbiFORWARD INDEX STRAIGHTbwBENTbi",
  "HOOKbiCURLICUEblVE THUMB INSIDEarCLAW INDEX THUMB CURVE THUMB INSIDEarFIST INDEX THUMB CURVE T",
  "HUMB UNDERbjIRCLEarCUP INDEX THUMBbg OPENarHINGE INDEX THUMB OPENbjLARGEbibi SMALLarANGLE INDE",
  "X THUMB OUTbjINbiarFIST THUMBbb HEELbcSIDE DIAGONALbhCONJOINEDbhBENTbcFORWARDbcBETWEEN INDEX M",
  "IDDLEbkMIDDLE RINGbkRING LITTLEbcUNDER TWO FINGERSbcOVER TWO FINGERSbcUNDER THREE FINGERSbiFOU",
  "R FINGERSbcOVER FOUR RAISED KNUCKLESavav HEELamTOUCH SINGLEasMULTIPLEasBETWEENamGRASP SINGLEas",
  "MULTIPLEasBETWEENamSTRIKE SINGLEatMULTIPLEatBETWEENamBRUSH SINGLEasMULTIPLEasBETWEENamRUB SING",
  "LEaqMULTIPLEaqBETWEENamSURFACE SYMBOLSauBETWEENanQUEEZE LARGE SINGLEauSMALL SINGLEauLARGE MULT",
  "IPLEauSMALL MULTIPLEavEQUENTIALamFLICK LARGE SINGLEasSMALL SINGLEasLARGE MULTIPLEasSMALL MULTI",
  "PLEatEQUENTIALamSQUEEZE FLICK ALTERNATINGamMOVEMENT-HINGE UP DOWN LARGEbjSMALLbeSEQUENTIALbbDO",
  "WN SEQUENTIALbbUP DOWN ALTERNATING LARGEbvSMALLbbSIDE TO SIDE SCISSORSavWALLPLANE FINGER CONTA",
  "CTavFLOORPLANE FINGER CONTACTavWALLPLANE SINGLE STRAIGHT SMALLbvMEDIUMbvLARGEcaSTbmWRIST FLEXb",
  "fDOUBLE STRAIGHTbmWRIST FLEXbmALTERNATINGbx WRIST FLEXbfCROSSbfTRIPLE STRAIGHT MOVEMENTbmWRIST",
  " FLEXbmALTERNATINGbx WRIST FLEXbfBEND SMALLbkMEDIUMbkLARGEbfCORNER SMALLbmMEDIUMbmLARGEbmROTAT",
  "IONbgHECK SMALLblMEDIUMblLARGEbfBOX SMALLbjMEDIUMbjLARGEbfZIGZAG SMALLbmMEDIUMbmLARGEbfPEAKS S",
  "MALLblMEDIUMblLARGEamTRAVEL-WALLPLANE ROTATION-WALLPLANE SINGLEbwDOUBLEbwALTERNATINGbmFLOORPLA",
  "NE SINGLEbxDOUBLEbxALTERNATINGbdSHAKINGbdARM SPIRAL SINGLEboDOUBLEboTRIPLEamMOVEMENT-DIAGONAL ",
  "AWAY SMALLbjMEDIUMbjLARGEboSTbeTOWARDS SMALLbmMEDIUMbmLARGEbrSTbeBETWEEN AWAY SMALLbrMEDIUMbrL",
  "ARGEbwSTbmTOWARDS SMALLbuMEDIUMbuLARGEbzSTavFLOORPLANE SINGLE STRAIGHT SMALLbwMEDIUMbwLARGEcbS",
  "TbnWRIST FLEXbgDOUBLE STRAIGHTbnWRIST FLEXbnALTERNATINGby WRIST FLEXbgCROSSbgTRIPLE STRAIGHT M",
  "OVEMENTbnWRIST FLEXbnALTERNATING MOVEMENTbzWRIST FLEXbgBENDbgCORNER SMALLbnMEDIUMbnLARGEbhHECK",
  "bgBOX SMALLbkMEDIUMbkLARGEbgZIGZAG SMALLbnMEDIUMbnLARGEbgPEAKS SMALLbmMEDIUMbmLARGEamTRAVEL-FL",
  "OORPLANE ROTATION-FLOORPLANE SINGLEbyDOUBLEbyALTERNATINGbnWALLPLANE SINGLEbxDOUBLEbxALTERNATIN",
  "GbeSHAKINGamMOVEMENT-WALLPLANE CURVE QUARTER SMALLbtMEDIUMbtLARGEbySTblHALF-CIRCLE SMALLbxMEDI",
  "UMbxLARGEccSTblTHREE-QUARTER CIRCLE SMALLcgMEDIUMbfHUMP SMALLbkMEDIUMbkLARGEbfLOOP SMALLbkMEDI",
  "UMbkLARGEbkSMALL DOUBLEbfWAVE CURVE DOUBLE SMALLbxMEDIUMbxLARGEbqTRIPLE SMALLbxMEDIUMbxLARGEbf",
  "CURVE THEN STRAIGHTbkD CROSS SMALLbsMEDIUMamROTATION-WALLPLANE SINGLEbfDOUBLEbfALTERNATEamMOVE",
  "MENT-WALLPLANE SHAKINGbfCURVE HITTING FRONT WALLbfHUMP HITTING FRONT WALLbfLOOP HITTING FRONT ",
  "WALLbfWAVE HITTING FRONT WALLamROTATION-WALLPLANE SINGLE HITTING FRONT WALLbfDOUBLE HITTING FR",
  "ONT WALLbfALTERNATING HITTING FRONT WALLamMOVEMENT-WALLPLANE CURVE HITTING CHESTbfHUMP HITTING",
  " CHESTbfLOOP HITTING CHESTbfWAVE HITTING CHESTamROTATION-WALLPLANE SINGLE HITTING CHESTbfDOUBL",
  "E HITTING CHESTbfALTERNATING HITTING CHESTamMOVEMENT-WALLPLANE WAVE DIAGONAL PATH SMALLbyMEDIU",
  "MbyLARGEavFLOORPLANE CURVE HITTING CEILING SMALLccLARGEbgHUMP HITTING CEILING SMALL DOUBLEcbLA",
  "RGE DOUBLEcbSMALL TRIPLEcbLARGE TRIPLEbgLOOP HITTING CEILING SMALL SINGLEcbLARGE SINGLEcbSMALL",
  " DOUBLEcbLARGE DOUBLEbgWAVE HITTING CEILING SMALLcbLARGEamROTATION-FLOORPLANE SINGLE HITTING C",
  "EILINGbgDOUBLE HITTING CEILINGbgALTERNATING HITTING CEILINGamMOVEMENT-FLOORPLANE CURVE HITTING",
  " FLOOR SMALLcaLARGEbgHUMP HITTING FLOOR SMALL DOUBLEbzLARGE DOUBLEbzTRIPLE SMALL TRIPLEcgLARGE",
  " TRIPLEbgLOOP HITTING FLOOR SMALL SINGLEbzLARGE SINGLEbzSMALL DOUBLEbzLARGE DOUBLEbgWAVE HITTI",
  "NG FLOOR SMALLbzLARGEamROTATION-FLOORPLANE SINGLE HITTING FLOORbgDOUBLE HITTING FLOORbgALTERNA",
  "TING HITTING FLOORamMOVEMENT-FLOORPLANE CURVE SMALLbmMEDIUMbmLARGEbrSTbmCOMBINEDbgHUMP SMALLbg",
  "LOOP SMALLbgWAVE SNAKEbmMALLblLARGEamROTATION-FLOORPLANE SINGLEbgDOUBLEbgALTERNATINGamMOVEMENT",
  "-FLOORPLANE SHAKING PARALLELavWALLPLANE ARM CIRCLE SMALL SINGLEbqMEDIUM SINGLEbqSMALL DOUBLEbq",
  "MEDIUM DOUBLEavFLOORPLANE ARM CIRCLE HITTING WALL SMALL SINGLEceMEDIUM SINGLEceLARGE SINGLEceS",
  "MALL DOUBLEceMEDIUM DOUBLEceLARGE DOUBLEavWALLPLANE WRIST CIRCLE FRONT SINGLEbyDOUBLEavFLOORPL",
  "ANE WRIST CIRCLE HITTING WALL SINGLEcgDOUBLEavWALLPLANE FINGER CIRCLES SINGLEbuDOUBLEavFLOORPL",
  "ANE FINGER CIRCLES HITTING WALL SINGLEciDOUBLEamDYNAMIC ARROWHEAD SMALLbeLARGEauFASTauSLOWauTE",
  "NSEauRELAXEDauSIMULTANEOUSbg ALTERNATINGauEVERY OTHER TIMEauGRADUALamHEADaq RIMarMOVEMENT-WALL",
  "PLANE STRAIGHTbkTILTbaFLOORPLANE STRAIGHTbaWALLPLANE CURVEbaFLOORPLANE CURVEaz CIRCLEamFACE DI",
  "RECTION POSITION NOSE FORWARD TILTINGbpUP OR DOWNbz TILTINGamEYEBROWS STRAIGHT UPbeNEUTRALbeDO",
  "WNamDREAMY EYEBROWS NEUTRAL DOWNbcDOWN NEUTRALbcUP NEUTRALbcNEUTRAL UPamFOREHEAD NEUTRALavCONT",
  "ACTavWRINKLEDamEYES OPENarSQUEEZEDarCLOSEDap BLINK SINGLEawMULTIPLEapS HALF OPENarWIDE OPENarH",
  "ALF CLOSEDarWIDENING MOVEMENTap WINKapLASHES UPawDOWNawFLUTTERINGapGAZE-WALLPLANE STRAIGHTbm D",
  "OUBLEbnALTERNATINGauFLOORPLANE STRAIGHTbn DOUBLEboALTERNATINGauWALLPLANE CURVEDauFLOORPLANE CU",
  "RVEDauWALLPLANE CIRCLINGamCHEEKS PUFFEDatNEUTRALatSUCKEDamTENSE CHEEKS HIGHazMIDDLEazLOWamEARS",
  "amNOSE NEUTRALarCONTACTarWRINKLESasIGGLESamAIR BLOWING OUTaqSUCKING INaqBLOW SMALL ROTATIONSaq",
  "SUCK SMALL ROTATIONSamBREATH INHALEatEXHALEamMOUTH CLOSED NEUTRALazFORWARDazCONTACTasSMILEax W",
  "RINKLEDayOPENasFROWNax WRINKLEDayOPENasOPEN CIRCLEaxFORWARDaxWRINKLEDaxOVALbb WRINKLEDbcYAWNax",
  "RECTANGLEbg WRINKLEDbhYAWNasKISSaw FORWARDaxWRINKLEDasTENSEax FORWARDaySUCKEDamLIPS PRESSED TO",
  "GETHERap LOWER OVER UPPERaqUPPER OVER LOWERamMOUTH CORNERSasWRINKLES SINGLEbbDOUBLEamTONGUE ST",
  "ICKING OUT FARatLICKING LIPSatTIP BETWEEN LIPSaxTOUCHING INSIDE MOUTHatINSIDE MOUTH RELAXEDatM",
  "OVES AGAINST CHEEKatCENTRE STICKING OUTbaINSIDE MOUTHanEETHar MOVEMENTasON TONGUEbb MOVEMENTav",
  "LIPSaz MOVEMENTasBITE LIPSamMOVEMENT-WALLPLANE JAWavFLOORPLANE JAWamNECKamHAIRamEXCITEMENTamSH",
  "OULDER HIP SPINEazPOSITIONSamWALLPLANE SHOULDER HIP MOVEamFLOORPLANE SHOULDER HIP MOVEamSHOULD",
  "ER TILTING FROM WAISTamTORSO-WALLPLANE STRAIGHT STRETCHbcCURVED BENDasFLOORPLANE TWISTINGamUPP",
  "ER BODY TILTING FROM HIP JOINTSamLIMB COMBINATIONarLENGTH-1ay2ay3ay4ay5ay6ay7amFINGERamLOCATIO",
  "N-WALLPLANE SPACEavFLOORPLANE SPACEau HEIGHTavWIDTHavDEPTHavHEAD NECKavTORSOavLIMBS DIGITSamCO",
  "MMAamFULL STOPamSEMICOLONamCOLONamPARENTHESIS@1DA9BamFILL MODIFIER-2ba3ba4ba5ba6@1DAA1amROTATI",
  "ON MODIFIER-2be3be4be5be6be7be8be9be10bf1bf2bf3bf4bf5bf6@1DF00aaLATIN SMALL LETTER FENG DIGRAP",
  "H WITH TRILLatREVERSED SCRIPT GagLETTER SMALL CAPITAL TURNED GagSMALL LETTER REVERSED KagLETTE",
  "R SMALL CAPITAL L WITH BELTagSMALL LETTER LEZH WITH RETROFLEX HOOKatTURNED Y WITH BELTatREVERS",
  "ED ENGatTURNED R WITH LONG LEG AND RETROFLEX HOOKau WITH HOOK AND RETROFLEX HOOKagLETTER RETRO",
  "FLEX CLICK WITH RETROFLEX HOOKagSMALL LETTER ESH WITH DOUBLE BARbm AND CURLatTURNED T WITH CUR",
  "LagLETTER INVERTED GLOTTAL STOP WITH CURLanSTRETCHED C WITH CURLaoMALL CAPITAL TURNED KagSMALL",
  " LETTER L WITH FISHHOOKatDEZH DIGRAPH WITH PALATAL HOOKatL WITH BELT AND PALATAL HOOKatENG WIT",
  "H PALATAL HOOKatTURNED R WITH PALATAL HOOKatR WITH FISHHOOK AND PALATAL HOOKatTESH DIGRAPH WIT",
  "H PALATAL HOOKatEZH WITH PALATAL HOOKatDEZH DIGRAPH WITH RETROFLEX HOOKatI WITH STROKE AND RET",
  "ROFLEX HOOKatO WITH RETROFLEX HOOKatTESH DIGRAPH WITH RETROFLEX HOOKatC WITH RETROFLEX HOOKatS",
  " WITH CURL@1E000aaCOMBINING GLAGOLITIC LETTER AZUbcBUKYbcVEDEbcGLAGOLIbcDOBRObcYESTUbcZHIVETE@",
  "1E008bdEMLJAbcIZHEbdNITIAL IZHEbdbcDJERVIbcKAKObcLJUDIJEbcMYSLITEbcNASHIbcONUbcPOKOJIbcRITSIbc",
  "SLOVObcTVRIDObcUKUbcFRITUbcHERU@1E01BbcSHTAbcTSIbcCHRIVIbcSHAbcYERUbfIbdATI@1E023bdUbcSMALL YU",
  "S@1E026bcYObcIOTATED SMALL YUSbcBIG YUSbcIOTATED BIG YUSbcFITA@1E100aaNYIAKENG PUACHUE HMONG L",
  "ETTER MAbeTSAbeNTAbeTAbeHAbeNAbeXAbeNKAbeCAbeLAbeSAbeZAbeNCAbfTSAbeKAbeDAbeNYAbfRAbeVAbeNTXAbe",
  "TXAbeFAbeRAbeQAbeYAbeNQAbePAbeXYAbeNPAbeDLAbeNPLAbeHAHbeMLAbePLAbeGAbeRRAbeAbfAbeIbeUbeObfObeE",
  "bfEbeW@1E130axTONE-BbcMbcJbcVbcSbcGbcDaxSIGN FOR PERSONbgTHINGbgLOCATIONbgANIMALbgINVERTEBRATE",
  "bcXW XWayYLLABLE LENGTHENER@1E140axDIGIT ZERObdONEbdTWObeHREEbdFOURbeIVEbdSIXbeEVENbdEIGHTbdNI",
  "NE@1E14EaxLOGOGRAM NYAJaxCIRCLED CA@1E290aaTOTO LETTER PAamBAamTAamDAamKAamGAamMAamNAanGAamSAa",
  "mCHAamYAamWAamJAamHAamRAamLAamIamBREATHY IamIUamBREATHY IUamUamEamBREATHY EamEOamBREATHY EOamO",
  "amAEamBREATHY AEamAafSIGN RISING TONE@1E2C0aaWANCHO LETTER AAapaoBAaoCAaoDAaoGAaoYAaoPHAaoLAao",
  "NAaoPAaoTAapHAaoFAaoSAapHAaoJAaoZAaoWAaoVAaoKAaoOaoAUaoRAaoMAaoKHAaoHAaoEaoIaoNGAaoUaoLLHAaoTS",
  "AapRAaoONGaoAANGapNGaoINGaoONaoENaoAANaoNYAaoUENaoYIHahTONE TUPapNIamKOIapNIahDIGIT ZEROanONEa",
  "nTWOaoHREEanFOURaoIVEanSIXaoEVENanEIGHTanNINE@1E2FFahNGUN SIGN@1E7E0aaETHIOPIC SYLLABLE HHYAav",
  "UavIavAAavEEawavO@1E7E8asGURAGE HHWAasHHWIavEEaw@1E7EDasGURAGE MWIbbEE@1E7F0azQWIbbEEbcazBWIbb",
  "EEazKWIbbEEbcazGWIbbEEbcazFWIbbEEazPWIbbEE@1E800aaMENDE KIKAKUI SYLLABLE M001 KIba2 KAba3 KUaz",
  "65 KEEaz95 KEaz76 KOOaz48 KOay179 KUAay004 WIba5 WAba6 WUay126 WEEaz18 WEba4 WOOay045 WOay194 ",
  "WUIaz43 WEIay061 WVIaz49 WVAay139 WVEay007 MINba8 MANba9 MUNaz59 MENaz94 MONay154 MUANaz89 MUE",
  "Nay010 BIba1 BAba2 BUay150 BEEay097 BEay103 BOOaz38 BOay013 Iba4 Aba5 Uay163 EEaz00 Eaz65 OOaz",
  "47 Oaz37 EIba1 INba5 INaz95 ANaz78 ENay019 SIaz20 SAba1 SUay162 SEEaz16 SEaz36 SOOay079 SOay19",
  "6 SIAay025 LIba6 LAba7 LUaz84 LEEaz73 LEaz54 LOOay153 LOaz10 LONG LEay016 DIba7 DAba8 DUaz89 D",
  "EEay180 DOOba1 DOay022 TIba3 TAba4 TUaz91 TEEaz55 TEay104 TOOay069 TOaz28 JIba9 JAaz30 JUay157",
  " JEEaz13 JEaz60 JOOay063 JOay175 LONG JOay031 YIba2 YAba3 YUay109 YEEay080 YEay141 YOOaz21 YOa",
  "y034 FIba5 FAba6 FUaz78 FEEba5 FEay133 FOOay088 FOay197 FUAaz01 FANay037 NINba8 NANba9 NUNay11",
  "7 NENaz69 NONaz76 HIay041 HAay186 HUay040 HEEaz96 HEaz42 HOOay140 HOay083 HEEIay128 HOOUay053 ",
  "HINay130 HANay087 HUNaz52 HENay193 HONay046 HUANaz90 NGGIaz43 NGGAaz82 NGGUay115 NGGEEaz46 NGG",
  "Eaz56 NGGOOaz20 NGGOaz59 NGGAAaz27 NGGUAay086 LONG NGGEay106 LONG NGGOOaz83 LONG NGGOaz55 GIaz",
  "11 GAaz68 GUaz90 GEEaz66 GUEIba7 GUANaz84 NGENay057 NGONay177 NGUANay068 PIaz99 PAaz50 PUaz81 ",
  "PEEaz51 PEay102 POOay066 POay145 MBIay062 MBAay122 MBUay047 MBEEay188 MBEEay072 MBEay172 MBOOb",
  "a4 MBOaz87 MBUUaz61 LONG MBEaz05 LONG MBOOaz42 LONG MBOaz32 KPIay092 KPAaz74 KPUaz44 KPEEay108",
  " KPEaz12 KPOOaz58 KPOaz24 GBIay056 GBAay148 GBUay093 GBEEay107 GBEay071 GBOOba0 GBOay171 RAaz2",
  "3 NDIba9 NDAba5 NDUaz91 NDEEaz19 NDEay067 NDOOba4 NDOay152 NJAaz92 NJUaz49 NJEEaz34 NJOOaz82 V",
  "Iba5 VAaz51 VUaz73 VEEay085 VEay144 VOOay077 VOay164 NYINay058 NYANay170 NYUNay098 NYENaz60 NY",
  "ON@1E8C7aoDIGIT ONEauTWOavHREEauFOURavIVEauSIXavEVENauEIGHTauNINEaoCOMBINING NUMBER TEENSbhNSb",
  "fHUNDREDSbfTHOUSANDSbgEN THOUSANDSbfHUNDRED THOUSANDSbfMILLIONS@1E900aaADLAM CAPITAL LETTER AL",
  "IFavDAALIavLAAMavMIIMavBAavSINNYIIYHEavPEavBHEavRAavEavFAavIavOavDHAavYHEavWAWavNUNavKAFavYAav",
  "UavJIIMavCHIavHAavQAAFavGAavNYAavTUavNHAavVAavKHAavGBEavZALavKPOavSHAagSMALL LETTER ALIFatDAAL",
  "IatLAAMatMIIMatBAatSINNYIIYHEatPEatBHEatRAatEatFAatIatOatDHAatYHEatWAWatNUNatKAFatYAatUatJIIMa",
  "tCHIatHAatQAAFatGAatNYAatTUatNHAatVAatKHAatGBEatZALatKPOatSHAagALIF LENGTHENERagVOWEL LENGTHEN",
  "ERagGEMINATION MARKagHAMZAagCONSONANT MODIFIERagGEMINATE CONSONANT MODIFIERagNUKTAahASALIZATIO",
  "N MARK@1E950agDIGIT ZEROamONEamTWOanHREEamFOURanIVEamSIXanEVENamEIGHTamNINE@1E95EagINITIAL EXC",
  "LAMATION MARKaoQUESTION MARK@1EC71aaINDIC SIYAQ NUMBER ONEatTWOauHREEatFOURauIVEatSIXauEVENatE",
  "IGHTatNINEatTENauWENTYauHIRTYatFORTYauIFTYatSIXTYauEVENTYatEIGHTYatNINETYatONE HUNDREDatTWO HU",
  "NDREDauHREE HUNDREDatFOUR HUNDREDauIVE HUNDREDatSIX HUNDREDauEVEN HUNDREDatEIGHT HUNDREDatNINE",
  " HUNDREDatONE THOUSANDatTWO THOUSANDauHREE THOUSANDatFOUR THOUSANDauIVE THOUSANDatSIX THOUSAND",
  "auEVEN THOUSANDatEIGHT THOUSANDatNINE THOUSANDatTEN THOUSANDauWENTY THOUSANDauHIRTY THOUSANDat",
  "FORTY THOUSANDauIFTY THOUSANDatSIXTY THOUSANDauEVENTY THOUSANDatEIGHTY THOUSANDatNINETY THOUSA",
  "NDatLAKHaxANamLAKH MARKamNUMBER KARORayANatPREFIXED ONEbcTWObdHREEbcFOURbdIVEbcSIXbdEVENbcEIGH",
  "TbcNINEamPLACEHOLDERamFRACTION ONE QUARTERazHALFavTHREE QUARTERSamRUPEE MARKamNUMBER ALTERNATE",
  " ONEbdTWObeEN THOUSANDamALTERNATE LAKH MARK@1ED01aaOTTOMAN SIYAQ NUMBER ONEavTWOawHREEavFOURaw",
  "IVEavSIXawEVENavEIGHTavNINEavTENawWENTYawHIRTYavFORTYawIFTYavSIXTYawEVENTYavEIGHTYavNINETYavON",
  "E HUNDREDavTWO HUNDREDawHREE HUNDREDavFOUR HUNDREDawIVE HUNDREDavSIX HUNDREDawEVEN HUNDREDavEI",
  "GHT HUNDREDavNINE HUNDREDavONE THOUSANDavTWO THOUSANDawHREE THOUSANDavFOUR THOUSANDawIVE THOUS",
  "ANDavSIX THOUSANDawEVEN THOUSANDavEIGHT THOUSANDavNINE THOUSANDavTEN THOUSANDawWENTY THOUSANDa",
  "wHIRTY THOUSANDavFORTY THOUSANDawIFTY THOUSANDavSIXTY THOUSANDawEVENTY THOUSANDavEIGHTY THOUSA",
  "NDavNINETY THOUSANDaoMARRATANaoALTERNATE NUMBER TWObgHREEbfFOURbgIVEbfSIXbgEVENbfEIGHTbfNINEbf",
  "TENbfFOUR HUNDREDbfSIX HUNDREDbfTWO THOUSANDbgEN THOUSANDaoFRACTION ONE HALFbbSIXTH@1EE00aaARA",
  "BIC MATHEMATICAL ALEFauBEHauJEEMauDAL@1EE05auWAWauZAINauHAHauTAHauYEHauKAFauLAMauMEEMauNOONauS",
  "EENauAINauFEHauSADauQAFauREHauSHEENauTEHavHEHauKHAHauTHALauDADauZAHauGHAINauDOTLESS BEHbcNOONb",
  "cFEHbcQAF@1EE21auINITIAL BEHbcJEEM@1EE24bcHEH@1EE27bdAH@1EE29bcYEHbcKAFbcLAMbcMEEMbcNOONbcSEEN",
  "bcAINbcFEHbcSADbcQAF@1EE34bcSHEENbcTEHbdHEHbcKHAH@1EE39bcDAD@1EE3BbcGHAIN@1EE42auTAILED JEEM@1",
  "EE47bbHAH@1EE49bbYEH@1EE4BbbLAM@1EE4DbbNOONbbSEENbbAIN@1EE51bbSADbbQAF@1EE54bbSHEEN@1EE57bbKHA",
  "H@1EE59bbDAD@1EE5BbbGHAIN@1EE5DbbDOTLESS NOON@1EE5FbjQAF@1EE61auSTRETCHED BEHbeJEEM@1EE64beHEH",
  "@1EE67bfAHbeTAHbeYEHbeKAF@1EE6CbeMEEMbeNOONbeSEENbeAINbeFEHbeSADbeQAF@1EE74beSHEENbeTEHbfHEHbe",
  "KHAH@1EE79beDADbeZAHbeGHAINbeDOTLESS BEH@1EE7EbmFEH@1EE80auLOOPED ALEFbbBEHbbJEEMbbDALbbHEHbbW",
  "AWbbZAINbbHAHbbTAHbbYEH@1EE8BbbLAMbbMEEMbbNOONbbSEENbbAINbbFEHbbSADbbQAFbbREHbbSHEENbbTEHbcHEH",
  "bbKHAHbbTHALbbDADbbZAHbbGHAIN@1EEA1auDOUBLE-STRUCK BEHbiJEEMbiDAL@1EEA5biWAWbiZAINbiHAHbiTAHbi",
  "YEH@1EEABbiLAMbiMEEMbiNOONbiSEENbiAINbiFEHbiSADbiQAFbiREHbiSHEENbiTEHbjHEHbiKHAHbiTHALbiDADbiZ",
  "AHbiGHAIN@1EEF0auOPERATOR MEEM WITH HAH WITH TATWEELbdHAH WITH DAL"]

end EntityGen.Text.CharName
