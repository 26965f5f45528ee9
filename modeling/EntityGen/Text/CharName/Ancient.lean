/-! Names of characters: ancient scripts. -/

namespace EntityGen.Text.CharName

/-- Names by code point, in the form that `CharName.find?` reads. -/
def ancientNames : List String := [
  "@10000aaLINEAR B SYLLABLE B008 Aau38 Eau28 Iau61 Oau10 Uau01 DAau45 DEau07 DIau14 DOau51 DUav7",
  " JAau46 JE@1000Dau36 JOau65 JUau77 KAau44 KEau67 KIau70 KOau81 KUav0 MAau13 MEau73 MIau15 MOau",
  "23 MUau06 NAau24 NEau30 NIau52 NOav5 NUau03 PAau72 PEau39 PIau11 POau50 PUau16 QAau78 QEau21 Q",
  "Iau32 QO@10028au60 RAau27 REau53 RIau02 ROau26 RUau31 SAau09 SEau41 SIau12 SOau58 SUav9 TAau04",
  " TEau37 TIau05 TOau69 TUau54 WAau75 WEau40 WIav2 WO@1003Cau17 ZAau74 ZE@1003Fau20 ZOav5 A2au43",
  " A3au85 AUau71 DWEau90 DWOau48 NWAau29 PU2au62 PTEau76 RA2au33 RA3au68 RO2av6 TA2au87 TWEau91 ",
  "TWO@10050alMBOL B018at9as22as34as47at9as56as63at4as79as82at3at6at9@10080ajIDEOGRAM B100 MANav2",
  " WOMANav4 DEERav5 EQUIDawF MAREawM STALLIONav6F EWEawM RAMav7F SHE-GOATawM HE-GOATav8F SOWawM ",
  "BOARav9F COWawM BULLau20 WHEATav1 BARLEYav2 OLIVEav3 SPICEav5 CYPERUSajMONOGRAM B127 KAPOav8 K",
  "ANAKOajIDEOGRAM B130 OILav1 WINEav2ajMONOGRAM B133 AREPAav5 MERIajIDEOGRAM B140 BRONZEav1 GOLD",
  "av2av5 WOOLav6au50av1 HORNav2av3av4ajMONOGRAM B156 TURO2ajIDEOGRAM B157av8av9 CLOTHau60av1av2 ",
  "GARMENTav3 ARMOURav4av5av6av7av8av9au70av1av2av3 MONTHav4av6 TREEav7av8av9au80av1av2av3av4av5a",
  "v9au90av1 HELMETat220 FOOTSTOOLav5 BATHTUBau30 SPEARav1 ARROWav2av3 SWORDav4av6au40 WHEELED CH",
  "ARIOTav1 CHARIOTav2 CHARIOT FRAMEav3 WHEELav5av6ajMONOGRAM B247 DIPTEajIDEOGRAM B248av9au51av2",
  "av3av4 DARTav5av6av7av8av9asVESSEL B155ba200bc1bc2bc3bc4bc5bc6bc7bc8bc9bb10bc1bc2bc3bc4bc5bc6b",
  "c7bc8bc9bb21bc2bc6bc7bc8bc9bb50ba305@10100aaAEGEAN WORD SEPARATOR LINEawDOTahCHECK MARK@10107a",
  "hNUMBER ONEaoTWOapHREEaoFOURapIVEaoSIXapEVENaoEIGHTaoNINEaoTENapWENTYapHIRTYaoFORTYapIFTYaoSIX",
  "TYapEVENTYaoEIGHTYaoNINETYaoONE HUNDREDaoTWO HUNDREDapHREE HUNDREDaoFOUR HUNDREDapIVE HUNDREDa",
  "oSIX HUNDREDapEVEN HUNDREDaoEIGHT HUNDREDaoNINE HUNDREDaoONE THOUSANDaoTWO THOUSANDapHREE THOU",
  "SANDaoFOUR THOUSANDapIVE THOUSANDaoSIX THOUSANDapEVEN THOUSANDaoEIGHT THOUSANDaoNINE THOUSANDa",
  "oTEN THOUSANDapWENTY THOUSANDapHIRTY THOUSANDaoFORTY THOUSANDapIFTY THOUSANDaoSIXTY THOUSANDap",
  "EVENTY THOUSANDaoEIGHTY THOUSANDaoNINETY THOUSAND@10137ahWEIGHT BASE UNITaoFIRST SUBUNITaoSECO",
  "ND SUBUNITaoTHIRD SUBUNITaoFOURTH SUBUNITahDRY MEASURE FIRST SUBUNITahLIQUID MEASURE FIRST SUB",
  "UNITahMEASURE SECOND SUBUNITapTHIRD SUBUNITaaGREEK ACROPHONIC ATTIC ONE QUARTERbbHALFbbDRACHMA",
  "axFIVEazFTYazVE HUNDREDbcTHOUSANDazFTY THOUSANDazVE TALENTSaxTEN TALENTSaxFIFTY TALENTSaxONE H",
  "UNDRED TALENTSaxFIVE HUNDRED TALENTSaxONE THOUSAND TALENTSaxFIVE THOUSAND TALENTSbcSTATERSaxTE",
  "N STATERSaxFIFTY STATERSaxONE HUNDRED STATERSaxFIVE HUNDRED STATERSaxONE THOUSAND STATERSaxTEN",
  " THOUSAND STATERSaxFIFTY THOUSAND STATERSaxTEN MNASarHERAEUM ONE PLETHRONarTHESPIAN ONEarHERMI",
  "ONIAN ONEarEPIDAUREAN TWOarTHESPIAN TWOarCYRENAIC TWO DRACHMASarEPIDAUREAN TWO DRACHMASarTROEZ",
  "ENIAN FIVEbcTENbf ALTERNATE FORMarHERMIONIAN TENarMESSENIAN TENarTHESPIAN TENbbHIRTYasROEZENIA",
  "N FIFTYbh ALTERNATE FORMarHERMIONIAN FIFTYarTHESPIAN FIFTYbaONE HUNDREDbaTHREE HUNDREDarEPIDAU",
  "REAN FIVE HUNDREDarTROEZENIAN FIVE HUNDREDasHESPIAN FIVE HUNDREDarCARYSTIAN FIVE HUNDREDarNAXI",
  "AN FIVE HUNDREDarTHESPIAN ONE THOUSANDbaFIVE THOUSANDarDELPHIC FIVE MNASarSTRATIAN FIFTY MNASa",
  "gONE HALF SIGNat ALTERNATE FORMagTWO THIRDS SIGNahHREE QUARTERS SIGNagYEAR SIGNagTALENT SIGNag",
  "DRACHMA SIGNagOBOL SIGNagTWO OBOLS SIGNahHREE OBOLS SIGNagFOUR OBOLS SIGNahIVE OBOLS SIGNagMET",
  "RETES SIGNagKYATHOS BASE SIGNagLITRA SIGNagOUNKIA SIGNagXESTES SIGNagARTABE SIGNaiOURA SIGNagG",
  "RAMMA SIGNagTRYBLION BASE SIGNagZERO SIGNagONE QUARTER SIGNagSINUSOID SIGNagINDICTION SIGNaaNO",
  "MISMA SIGN@10190aaROMAN SEXTANS SIGNagUNCIA SIGNagSEMUNCIA SIGNaiXTULA SIGNagDIMIDIA SEXTULA S",
  "IGNagSILIQUA SIGNagDENARIUS SIGNagQUINARIUS SIGNagSESTERTIUS SIGNagDUPONDIUS SIGNagAS SIGNagCE",
  "NTURIAL SIGNaaASCIA SYMBOL@101A0aaGREEK SYMBOL TAU RHO@101D0aaPHAISTOS DISC SIGN PEDESTRIANauL",
  "UMED HEADatTATTOOED HEADatCAPTIVEauHILDatWOMANatHELMETatGAUNTLETatTIARAatARROWatBOWatSHIELDatC",
  "LUBatMANACLESavTTOCKatSAWatLIDatBOOMERANGatCARPENTRY PLANEatDOLIUMatCOMBatSLINGatCOLUMNatBEEHI",
  "VEatSHIPatHORNauIDEatBULLS LEGatCATatRAMatEAGLEatDOVEatTUNNYatBEEatPLANE TREEatVINEatPAPYRUSat",
  "ROSETTEatLILYatOX BACKatFLUTEatGRATERatSTRAINERauMALL AXEatWAVY BANDatCOMBINING OBLIQUE STROKE",
  "@10280aaLYCIAN LETTER AaoEaoBapHaoGaoDaoIaoWaoZaoTHaoJaoKaoQaoLaoMaoNaoMMaoNNaoUaoPaoKKaoRaoSa",
  "oTapTaoANaoENaoHaoX@102A0aaCARIAN LETTER AaoP2aoDaoLaoUUUaoRaoLDaoA2aoQaoBaoMaoOaoD2aoTaoSHaq2",
  "apaoC-18aoUaoNNaoXaoNaoTT2aoPaoSSaoIaoEaoUUUUaoKap2aoNDaoUUaoGap2aoSTaq2aoNGaoIIaoC-39aoTTaoUU",
  "U2aoRRaoMBaq2aq3aq4aoLD2aoE2aoUUU3@102E0abOPTIC EPACT THOUSANDS MARKanDIGIT ONEatTWOauHREEatFO",
  "URauIVEatSIXauEVENatEIGHTatNINEanNUMBER TENavWENTYavHIRTYauFORTYavIFTYauSIXTYavEVENTYauEIGHTYa",
  "uNINETYauONE HUNDREDauTWO HUNDREDavHREE HUNDREDauFOUR HUNDREDavIVE HUNDREDauSIX HUNDREDavEVEN ",
  "HUNDREDauEIGHT HUNDREDauNINE HUNDRED@10300aaOLD ITALIC LETTER AasBEasKEasDEasEasVEasZEasHEasTH",
  "EasIasKAasELatMatNatSHasOasPEasSHEasKUasERatSasTEasUasEKSasPHEasKHEasEFatRSasCHEasIIasUUasESSa",
  "lNUMERAL ONEatFIVEatTENatFIFTY@1032DalLETTER YEasNORTHERN TSEasSOUTHERN TSEaaGOTHIC LETTER AHS",
  "AaoBAIRKANaoGIBAaoDAGSaoAIHVUSaoQAIRTHRAaoIUJAaoHAGLaoTHIUTHaoEISaoKUSMAaoLAGUSaoMANNAaoNAUTHS",
  "aoJERaoURUSaoPAIRTHRAaoNINETYaoRAIDAaoSAUILaoTEIWSaoWINJAaoFAIHUaoIGGWSaoHWAIRaoOTHALaoNINE HU",
  "NDRED@10350aaOLD PERMIC LETTER ANasBURasGAIasDOIasEasZHOIasDZHOIasZATAasDZITAasIasKOKEasLEIasM",
  "ENOEasNENOEasVOOIasPEEIasREIasSIIasTAIasUasCHERYasSHOOIauCHOOIasYRYatERUasOatOasEFasHAasTSIUas",
  "VERasYERavIatATasIEasYUatAasIAaaCOMBINING OLD PERMIC LETTER ANbcDOIbcZATAbcNENOEbcSII@10380aaU",
  "GARITIC LETTER ALPAaqBETAaqGAMLAaqKHAaqDELTAaqHOaqWOaqZETAaqHOTAaqTETaqYODaqKAFaqSHINaqLAMDAaq",
  "MEMaqDHALaqNUNaqZUaqSAMKAaqAINaqPUaqSADEaqQOPAaqRASHAaqTHANNAaqGHAINaqTOaqIaqUaqSSU@1039FajWOR",
  "D DIVIDERaaOLD PERSIAN SIGN AarIarUarKAasUarGAasUarXAarCAarJAasIarTAasUarDAasIasUarTHAarPAarBA",
  "arFAarNAasUarMAasIasUarYAarVAasIarRAasUarLAarSAarZAarSHAasSAarHA@103C8arAURAMAZDAAbb-2bbHAarXS",
  "HAAYATHIYAarDAHYAAUSHba-2arBAGAasUUMISHamWORD DIVIDERamNUMBER ONEatTWOauENauWENTYatHUNDRED@104",
  "00aaDESERET CAPITAL LETTER LONG IbcEbcAbdHbcObdOaxSHORT IbdEbdAbeHbdObeOaxAYaxOWaxWUaxYEEaxHax",
  "PEEaxBEEaxTEEaxDEEaxCHEEaxJEEaxKAYaxGAYaxEFaxVEEaxETHaxTHEEaxESaxZEEaxESHaxZHEEaxERayLayMayNaz",
  "GaxOIaxEWaiSMALL LETTER LONG IbaEbaAbbHbaObbOavSHORT IbbEbbAbcHbbObcOavAYavOWavWUavYEEavHavPEE",
  "avBEEavTEEavDEEavCHEEavJEEavKAYavGAYavEFavVEEavETHavTHEEavESavZEEavESHavZHEEavERawLawMawNaxGav",
  "OIavEWaaSHAVIAN LETTER PEEPapTOTapKICKapFEEapTHIGHapSOaqUREapCHURCHapYEAapHUNGapBIBapDEADapGAG",
  "apVOWapTHEYapZOOapMEASUREapJUDGEapWOEapHA-HAapLOLLapMIMEapIFapEGGapASHaqDOapONapWOOLapOUTapAHa",
  "pROARapNUNapEATapAGEapICEapUPapOAKaqOZEaqILapAWEaqREapORapAIRapERRapARRAYapEARapIANapYEWaaOSMA",
  "NYA LETTER ALEFapBAapTAapJAapXAapKHAapDEELapRAapSAaqHIINapDHAapCAYNapGAapFAapQAAFapKAAFapLAANa",
  "pMIINapNUUNapWAWapHAapYAapAapEapIapOapUapAAapEEapOO@104A0aiDIGIT ZEROaoONEaoTWOapHREEaoFOURapI",
  "VEaoSIXapEVENaoEIGHTaoNINE@104B0acAGE CAPITAL LETTER AawIaxNawHavBRAavCHAavEHCHAawawINavHAawYA",
  "avIavKAavEHKAavKYAavLAavMAavNAavOawINavPAavEHPAavSAawHAavTAavEHTAavTSAavEHTSAavTSHAavDHAavUavW",
  "AavKHAavGHAavZAawHA@104D8agSMALL LETTER AauIavNauHatBRAatCHAatEHCHAauauINatHAauYAatIatKAatEHKA",
  "atKYAatLAatMAatNAatOauINatPAatEHPAatSAauHAatTAatEHTAatTSAatEHTSAatTSHAatDHAatUatWAatKHAatGHAat",
  "ZAauHA@10500aaELBASAN LETTER AapBEapCEaqHEapDEapNDEapDHEapEIaqapFEapGEaqJEapHEapIapJEapKEapLEa",
  "qLEapMEapNEaqAaqJEapOapPEapQEapREaqREapSEaqHEapTEaqHEapUapVEapXEapYapZEaqHEapGHEarAMMAapKHE@10",
  "530aaCAUCASIAN ALBANIAN LETTER ALTbaBETbaGIMbaDATbaEBbaZARLbaEYNbaZHILbaTASbaCHAbaYOWDbaZHAbaI",
  "RBbaSHAbaLANbaINYAbaXEYNbaDYANbaCARbaJHOXbaKARbaLYITbaHEYTbaQAYbaAORbaCHOYbcIbbYAYbaMAQbaQARba",
  "NOWCbaDZYAYbaSHAKbaJAYNbaONbaTYAYbaFAMbaDZAYbaCHATbaPENbaGHEYSbaRATbaSEYKbaVEYZbaTIWRbaSHOYbaI",
  "WNbaCYAWbbAYNbaYAYDbaPIWRbaKIW@1056FatCITATION MARKaaVITHKUQI CAPITAL LETTER AayBBEazEayCEazHE",
  "ayDEazHEayEIazayFEayGA@1057CayHAazHAayIazJEayJEayKAayLAazLAayMEayNEazJEayOayPEayQAayRE@1058Cay",
  "SEazHEayTEazHEayUayVEayXE@10594ayYayZE@10597ajSMALL LETTER AawBBEaxEawCEaxHEawDEaxHEawEIaxawFE",
  "awGA@105A3awHAaxHAawIaxJEawJEawKAawLAaxLAawMEawNEaxJEawOawPEawQAawRE@105B3awSEaxHEawTEaxHEawUa",
  "wVEawXE@105BBawYawZE@10600aaLINEAR A SIGN AB001as2as3as4as5as6as7as8as9ar10as1as3as6as7ar20as1",
  "atFatMas2atFatMas3atMas4as6as7as8ap028BapB029ar30as1as4as7as8as9ar40as1as4as5as6as7as8as9ar50a",
  "s1as3as4as5as6as7as8as9ar60as1as5as6as7as9ar70as3as4as6as7as8as9ar80as1as2as5as6as7ap100-102ap",
  "B118ar20ap120BapB122as3ar31AatBap131CapB164ar71ar80as8ar91ap301ar2ar3ar4ar5ar6ar7ar8ar9AasBasC",
  "aq10ar1ar2ar3AasBasCar4ar5ar6ar7ar8ar9aq20ar1ar2ar3ar4ar5ar6ar7ar8ar9aq30ar1ar2ar3ar4ar5ar6ar7",
  "ar8ar9aq40ar1ar2ar3ar4ar5ar6ar7ar8ar9aq50ar1ar2ar3ar4ar5ar6ar7ar8ar9aq60ar1ar2ar3ar4ar5ar6ar7a",
  "r8ar9aq70ar1ap400-VASar1-VASar2-VASar3-VASar4-VASar5-VASar6-VASar7-VASar8-VASar9-VASaq10-VASar",
  "1-VASar2-VASar3-VASar4-VASar5-VASar6-VASar7-VASar8-VASap501ar2ar3ar4ar5ar6ar8ar9aq10ar1ar2ar3a",
  "r5ar6aq20ar1ar3ar4ar5ar6ar7ar8ar9aq30ar1ar2ar4ar5ar6ar7ar8ar9aq40ar1ar2ar5ar7ar8ar9aq50ar1ar2a",
  "r3ar4ar5ar6ar7ar9aq63ar4ar5ar6ar8ar9aq70ar1ar2ar3ar4ar5ar6ar7ar8ar9aq80ar1ar2ar3ar4ar5ar6ar7ar",
  "8ar9aq91ar2ar4ar5ar6ar8ap600ar1ar2ar3ar4ar6ar8ar9aq10ar1ar2ar3ar4ar5ar6ar7ar8ar9aq20ar1ar2ar3a",
  "r4ar6ar7ar8ar9aq34ar7ar8aq40ar2ar3ar4ar5ar6ar8ar9aq51ar2ar3ar4ar5ar6ar7ar8ar9aq60ar1ar2ar3ar4@",
  "10740ap701 Aar2 Bar3 Dar4 Ear5 Far6 Har7 Jar8 Kar9 Las-2 L2at3 L3at4 L4at6 L6aq10 War1 Xar2 Ya",
  "r3 OMEGAar4 ABBar5 BBar7 DDaq26 EYYYaq32 JE@10760ap800ar1ar2ar3ar4ar5ar6ar7@10780aaMODIFIER LE",
  "TTER SMALL CAPITAL AAarUPERSCRIPT TRIANGULAR COLONbcHALF TRIANGULAR COLONarMALL AEawCAPITAL Ba",
  "wB WITH HOOK@10787awDZ DIGRAPHbg WITH RETROFLEX HOOKbmCURLaxEZH DIGRAPHax WITH TAILbdHOOKbh AN",
  "D TAILawREVERSED EawCLOSED REVERSED OPEN EawFENG DIGRAPHawRAMS HORNawCAPITAL GawG WITH HOOKawC",
  "APITAL G WITH HOOKawH WITH STROKEawCAPITAL HawHENG WITH HOOKawDOTLESS J WITH STROKE AND HOOKaw",
  "LS DIGRAPHaxZ DIGRAPHax WITH BELTawCAPITAL L WITH BELTawL WITH RETROFLEX HOOK AND BELTaxEZHba ",
  "WITH RETROFLEX HOOKawTURNED Ybe WITH BELTawO WITH STROKEawCAPITAL OEaxLOSED OMEGAawQawTURNED R",
  " WITH LONG LEGbs AND RETROFLEX HOOKawR WITH TAILbdFISHHOOKawCAPITAL RawTC DIGRAPH WITH CURLaxS",
  " DIGRAPHbg WITH RETROFLEX HOOKaxESH DIGRAPHax WITH RETROFLEX HOOKawV WITH RIGHT HOOK@107B2awCA",
  "PITAL YaqGLOTTAL STOP WITH STROKEaqREVERSED GLOTTAL STOP WITH STROKEaqBILABIAL CLICKaqDENTAL C",
  "LICKaqLATERAL CLICKaqALVEOLAR CLICKaqRETROFLEX CLICK WITH RETROFLEX HOOKaqSMALL S WITH CURL@10",
  "800aaCYPRIOT SYLLABLE AarEarIarOarUarJA@10808asO@1080AarKAasEasIasOasUarLAasEasIasOasUarMAasEa",
  "sIasOasUarNAasEasIasOasUarPAasEasIasOasUarRAasEasIasOasUarSAasEasIasOasUarTAasEasIasOasUarWAas",
  "EasIasO@10837arXAasE@1083CarZA@1083FasOaaIMPERIAL ARAMAIC LETTER ALEPHayBETHayGIMELayDALETHayH",
  "EayWAWayZAYINayHETHayTETHayYODHayKAPHayLAMEDHayMEMayNUNaySAMEKHayAYINayPEaySADHEayQOPHayRESHay",
  "SHINayTAW@10857arSECTION SIGNarNUMBER ONEayTWOazHREEazENazWENTYayONE HUNDREDbcTHOUSANDayTEN TH",
  "OUSANDaaPALMYRENE LETTER ALEPHarBETHarGIMELarDALETHarHEarWAWarZAYINarHETHarTETHarYODHarKAPHarL",
  "AMEDHarMEMarFINAL NUNarNUNarSAMEKHarAYINarPEarSADHEarQOPHarRESHarSHINarTAWamFT-POINTING FLEURO",
  "NakRIGHT-POINTING FLEURONakNUMBER ONEarTWOasHREEarFOURasIVEarTENasWENTYaaNABATAEAN LETTER FINA",
  "L ALEPHarALEPHarFINAL BETHarBETHarGIMELarDALETHarFINAL HEarHEarWAWarZAYINarHETHarTETHarFINAL Y",
  "ODHarYODHarFINAL KAPHarKAPHarFINAL LAMEDHarLAMEDHarFINAL MEMarMEMarFINAL NUNarNUNarSAMEKHarAYI",
  "NarPEarSADHEarQOPHarRESHarFINAL SHINarSHINarTAW@108A7akNUMBER ONEarTWOasHREEarFOURakCRUCIFORM ",
  "NUMBER FOURakNUMBER FIVEarTENasWENTYarONE HUNDRED@108E0aaHATRAN LETTER ALEPHaoBETHaoGIMELaoDAL",
  "ETH-RESHaoHEaoWAWaoZAYNaoHETHaoTETHaoYODHaoKAPHaoLAMEDHaoMEMaoNUNaoSAMEKHaoAYNaoPEaoSADHEaoQOP",
  "H@108F4aoSHINaoTAW@108FBahNUMBER ONEaoFIVEaoTENapWENTYaoONE HUNDREDaaPHOENICIAN LETTER ALFasBE",
  "TasGAMLasDELTasHEasWAUasZAIasHETasTETasYODasKAFasLAMDasMEMasNUNasSEMKasAINasPEasSADEasQOFasROS",
  "HasSHINasTAUalNUMBER ONEasTENatWENTYasONE HUNDREDasTWOatHREE@1091FalWORD SEPARATORaaLYDIAN LET",
  "TER AaoBaoGaoDaoEaoVaoIaoYaoKaoLaoMaoNaoOaoRaoSSaoTaoUaoFaoQaoSaoTTaoANaoENaoLYaoNNaoC@1093Fah",
  "TRIANGULAR MARK@10980aaMEROITIC HIEROGLYPHIC LETTER AbdEbdIbdObdYAbdWAbdBAbf-2bdPAbdMAbdNAbf-2",
  "beEbf-2bdRAbf-2bdLAbdKHAbdHHAbdSAbf-2beEbdKAbdQAbdTAbf-2beEbf-2beObdDAawSYMBOL VIDJbh-2ajCURSI",
  "VE LETTER AayEayIayOayYAayWAayBAayPAayMAayNAazEayRAayLAayKHAayHHAaySAayARCHAIC SAaySEayKAayQAa",
  "yTAazEazOayDA@109BCarFRACTION ELEVEN TWELFTHSbaONE HALFarLOGOGRAM RMTbaIMNarNUMBER ONEayTWOazH",
  "REEayFOURazIVEaySIXazEVENayEIGHTayNINEayTENazWENTYazHIRTYayFORTYazIFTYaySIXTYazEVENTY@109D2ayO",
  "NE HUNDREDayTWO HUNDREDazHREE HUNDREDayFOUR HUNDREDazIVE HUNDREDaySIX HUNDREDazEVEN HUNDREDayE",
  "IGHT HUNDREDayNINE HUNDREDayONE THOUSANDayTWO THOUSANDazHREE THOUSANDayFOUR THOUSANDazIVE THOU",
  "SANDaySIX THOUSANDazEVEN THOUSANDayEIGHT THOUSANDayNINE THOUSANDayTEN THOUSANDazWENTY THOUSAND",
  "azHIRTY THOUSANDayFORTY THOUSANDazIFTY THOUSANDaySIXTY THOUSANDazEVENTY THOUSANDayEIGHTY THOUS",
  "ANDayNINETY THOUSANDayONE HUNDRED THOUSANDayTWO HUNDRED THOUSANDazHREE HUNDRED THOUSANDayFOUR ",
  "HUNDRED THOUSANDazIVE HUNDRED THOUSANDaySIX HUNDRED THOUSANDazEVEN HUNDRED THOUSANDayEIGHT HUN",
  "DRED THOUSANDayNINE HUNDRED THOUSANDarFRACTION ONE TWELFTHbaTWO TWELFTHSbbHREE TWELFTHSbaFOUR ",
  "TWELFTHSbbIVE TWELFTHSbaSIX TWELFTHSbbEVEN TWELFTHSbaEIGHT TWELFTHSbaNINE TWELFTHSbaTEN TWELFT",
  "HSaaKHAROSHTHI LETTER AalVOWEL SIGN IawUawVOCALIC R@10A05awEawO@10A0CarLENGTH MARKalSIGN DOUBL",
  "E RING BELOWaqANUSVARAaqVISARGAalLETTER KAatHAasGAatHA@10A15asCAatHAasJA@10A19asNYAasTTAauHAas",
  "DDAauHAasNNAasTAatHAasDAatHAasNAasPAatHAasBAatHAasMAasYAasRAasLAasVAasSHAatSAatAasZAasHAasKKAa",
  "sTTTHAavAasVHA@10A38alSIGN BAR ABOVEaqCAUDAaqDOT BELOW@10A3FalVIRAMAalDIGIT ONEarTWOasHREEarFO",
  "URalNUMBER TENatWENTYasONE HUNDREDawTHOUSANDalFRACTION ONE HALF@10A50alPUNCTUATION DOTaxSMALL ",
  "CIRCLEaxCIRCLEayRESCENT BARaxMANGALAMaxLOTUSaxDANDAayOUBLE DANDAaxLINES@10A60aaOLD SOUTH ARABI",
  "AN LETTER HEazLAMEDHazHETHazMEMazQOPHazWAWazSHINazRESHazBETHazTAWazSATazKAPHazNUNazKHETHazSADH",
  "EbbMEKHazFEazALEFbaYNazDHADHEazGIMELazDALETHazGHAYNazTETHazZAYNazDHALETHazYODHazTHAWbbETHasNUM",
  "BER ONEazFIFTYavERIC INDICATORaeNORTH ARABIAN LETTER HEHazLAMazHAHazMEEMazQAFazWAWazES-2azREHa",
  "zBEHazTEHazES-1azKAFazNOONazKHAHazSADazES-3azFEHazALEFbaINazDADazGEEMazDALazGHAINazTAHazZAINaz",
  "THALazYEHazTHEHazZAHasNUMBER ONEazTENbaWENTY@10AC0aaMANICHAEAN LETTER ALEPHasBETHatHETHasGIMEL",
  "atHIMELasDALETHasHEasWAWalSIGN UDalLETTER ZAYINatHAYINasJAYINatHAYINasHETHasTETHasYODHasKAPHas",
  "XAPHasKHAPHasLAMEDHasDHAMEDHasTHAMEDHasMEMasNUNasSAMEKHasAYINatAYINasPEasFEasSADHEasQOPHasXOPH",
  "asQHOPHasRESHasSHINatSHINasTAWalABBREVIATION MARK ABOVEbdBELOW@10AEBalNUMBER ONEasFIVEasTENatW",
  "ENTYasONE HUNDREDalPUNCTUATION STARaxFLEURONaxDOUBLE DOT WITHIN DOTazT WITHIN DOTbaaxTWO DOTSa",
  "xLINE FILLER@10B00aaAVESTAN LETTER AaqAaqOaqAOaqNaqANaqEarEapEaqEapOaqOapIaqIapUaqUapKEapXEaqY",
  "EaqVEapGEaqGEaqHEapCEapJEapTEaqHEapDEaqHEapTTEapPEapFEapBEaqHEapNGEarYEarVEaqEaqYEaqNEapMEapHM",
  "EapYYEaqEapVEapREapLEapSEapZEapSHEapZHEapSHYEaqSHEapHE@10B39aiABBREVIATION MARKaaTINY TWO DOTS",
  " OVER ONE DOT PUNCTUATIONaaSMALL TWO DOTS OVER ONE DOT PUNCTUATIONaaLARGE TWO DOTS OVER ONE DO",
  "T PUNCTUATIONagONE DOT OVER TWO DOTS PUNCTUATIONagTWO RINGS OVER ONE RING PUNCTUATIONagONE RIN",
  "G OVER TWO RINGS PUNCTUATIONaaINSCRIPTIONAL PARTHIAN LETTER ALEPHbeBETHbeGIMELbeDALETHbeHEbeWA",
  "WbeZAYINbeHETHbeTETHbeYODHbeKAPHbeLAMEDHbeMEMbeNUNbeSAMEKHbeAYINbePEbeSADHEbeQOPHbeRESHbeSHINb",
  "eTAW@10B58axNUMBER ONEbeTWObfHREEbeFOURbeTENbfWENTYbeONE HUNDREDbiTHOUSANDaqHLAVI LETTER ALEPH",
  "bdBETHbdGIMELbdDALETHbdHEbdWAW-AYIN-RESHbdZAYINbdHETHbdTETHbdYODHbdKAPHbdLAMEDHbdMEM-QOPHbdNUN",
  "bdSAMEKHbdPEbdSADHEbeHINbdTAW@10B78awNUMBER ONEbdTWObeHREEbdFOURbdTENbeWENTYbdONE HUNDREDbhTHO",
  "USANDaaPSALTER PAHLAVI LETTER ALEPHaxBETHaxGIMELaxDALETHaxHEaxWAW-AYIN-RESHaxZAYINaxHETHaxYODH",
  "axKAPHaxLAMEDHaxMEM-QOPHaxNUNaxSAMEKHaxPEaxSADHEayHINaxTAW@10B99aqSECTION MARKaqTURNED SECTION",
  " MARKaqFOUR DOTS WITH CROSSbfDOT@10BA9aqNUMBER ONEaxTWOayHREEaxFOURaxTENayWENTYaxONE HUNDRED@1",
  "0C00aaOLD TURKIC LETTER ORKHON AasYENISEI AbbEasORKHON IasYENISEI IbaEasORKHON ObaEasYENISEI O",
  "EasORKHON ABasYENISEI ABasORKHON AEBasYENISEI AEBasORKHON AGasYENISEI AGasORKHON AEGasYENISEI ",
  "AEGasORKHON ADasYENISEI ADasORKHON AEDazEZasYENISEI EZasORKHON AYasYENISEI AYasORKHON AEYasYEN",
  "ISEI AEYasORKHON AEKasYENISEI AEKasORKHON OEKasYENISEI OEKasORKHON ALasYENISEI ALasORKHON AELa",
  "zELTbaMazANbaENasYENISEI AENasORKHON ENTasYENISEI ENTasORKHON ENCasYENISEI ENCasORKHON ENYasYE",
  "NISEI ENYbaANGasORKHON ENGasYENISEI AENGasORKHON EPazOPazICazECasYENISEI ECasORKHON AQasYENISE",
  "I AQasORKHON IQasYENISEI IQasORKHON OQasYENISEI OQasORKHON ARasYENISEI ARasORKHON AERbaSbaESba",
  "SHasYENISEI ASHasORKHON ESHasYENISEI ESHasORKHON ATasYENISEI ATasORKHON AETasYENISEI AETasORKH",
  "ON OTazBASH@10C80aeHUNGARIAN CAPITAL LETTER AbeAbdEBbdAMBbdECbeNCbeCSbeDbdANDbdEbdCLOSE EbdEEb",
  "eFbeGbfYbeHbdIbeIbdEJbeKbdAKbdUNKbdELbfYbeMbeNbfYbdObeObdNIKOLSBURG OEbdRUDIMENTA OEbdOEEbdEPb",
  "eMPbeRbdSHORT ERbdESbfZbeTbeNTbeTYbeCHbdUbeUbdNIKOLSBURG UEbdRUDIMENTA UEbdEVbeZbfSbeNT-SHAPED",
  " SIGNbdUS@10CC0aoSMALL LETTER AbcAbbEBbbAMBbbECbcNCbcCSbcDbbANDbbEbbCLOSE EbbEEbcFbcGbdYbcHbbI",
  "bcIbbEJbcKbbAKbbUNKbbELbdYbcMbcNbdYbbObcObbNIKOLSBURG OEbbRUDIMENTA OEbbOEEbbEPbcMPbcRbbSHORT ",
  "ERbbESbdZbcTbcNTbcTYbcCHbbUbcUbbNIKOLSBURG UEbbRUDIMENTA UEbbEVbcZbdSbcNT-SHAPED SIGNbbUS@10CF",
  "AaoNUMBER ONEavFIVEavTENavFIFTYavONE HUNDREDazTHOUSANDaaHANIFI ROHINGYA LETTER AaxBAaxPAaxTAay",
  "TAaxJAaxCAaxHAaxKHAaxFAaxDAayDAaxRAayRAaxZAaxSAayHAaxKAaxGAaxLAaxMAaxNAaxWAaxKINNA WAaxYAaxKIN",
  "NA YAaxNGAayYAaxVAaqVOWEL AawIawUawEawOaqMARK SAKINavNA KHONNAaqSIGN HARBAHAYavTAHALAaxNAaxSSI",
  "@10D30aqDIGIT ZEROawONEawTWOaxHREEawFOURaxIVEawSIXaxEVENawEIGHTawNINE@10E60aaRUMI DIGIT ONEalT",
  "WOamHREEalFOURamIVEalSIXamEVENalEIGHTalNINEafNUMBER TENanWENTYanHIRTYamFORTYanIFTYamSIXTYanEVE",
  "NTYamEIGHTYamNINETYamONE HUNDREDamTWO HUNDREDanHREE HUNDREDamFOUR HUNDREDanIVE HUNDREDamSIX HU",
  "NDREDanEVEN HUNDREDamEIGHT HUNDREDamNINE HUNDREDafFRACTION ONE HALFasQUARTERasTHIRDaoTWO THIRD",
  "S@10E80aaYEZIDI LETTER ELIFaoBEaoPEapHEaoTHEaoSEaoCIMapHIMaqHIMaoHHAaoXAaoDALaoZALaoRAapHAaoZA",
  "aoJAaoSINapHINapADaoDADaoTAaoZEaoEYNaoXHEYNaoFAaoVAaq ALTERNATE FORMaoQAFaoKAFapHAFaoGAFaoLAMa",
  "oMIMaoNUNaoUMaoWAWaoOWaoEWaoHAYaoYOTaoET@10EABahCOMBINING HAMZA MARKarMADDA MARKahHYPHENATION ",
  "MARK@10EB0ahLETTER LAM WITH DOT ABOVEaoYOT WITH CIRCUMFLEX ABOVE@10F00aaOLD SOGDIAN LETTER ALE",
  "PHatFINAL ALEPHatBETHatFINAL BETHatGIMELatHEatFINAL HEatWAWatZAYINatHETHatYODHatKAPHatLAMEDHat",
  "MEMatNUNatFINAL NUNbc WITH VERTICAL TAILatSAMEKHatAYINauLTERNATE AYINatPEatSADHEatFINAL SADHEb",
  "e WITH VERTICAL TAILatRESH-AYIN-DALETHatSHINatTAWatFINAL TAWbc WITH VERTICAL TAILamNUMBER ONEa",
  "tTWOauHREEatFOURauIVEatTENauWENTYauHIRTYatONE HUNDREDamFRACTION ONE HALFamLIGATURE AYIN-DALETH",
  "@10F30aaSOGDIAN LETTER ALEPHapBETHapGIMELapHEapWAWapZAYINapHETHapYODHapKAPHapLAMEDHapMEMapNUNa",
  "pSAMEKHapAYINapPEapSADHEapRESH-AYINapSHINapTAWapFETHapLESHaiINDEPENDENT SHINaiCOMBINING DOT BE",
  "LOWasTWO DOTS BELOWasDOT ABOVEasTWO DOTS ABOVEasCURVE ABOVEayBELOWasHOOK ABOVEaxBELOWasLONG HO",
  "OK BELOWasRESH BELOWasSTROKE BELOWaiNUMBER ONEapTENaqWENTYapONE HUNDREDaiPUNCTUATION TWO VERTI",
  "CAL BARSbl WITH DOTSauCIRCLE WITH DOTauTWO CIRCLES WITH DOTSauHALF CIRCLE WITH DOT@10F70aaOLD ",
  "UYGHUR LETTER ALEPHasBETHasGIMEL-HETHasWAWasZAYINasFINAL HETHasYODHasKAPHasLAMEDHasMEMasNUNasS",
  "AMEKHasPEasSADHEasRESHasSHINasTAWasLESHalCOMBINING DOT ABOVEazBELOWavTWO DOTS ABOVEbeBELOWalPU",
  "NCTUATION BARaxTWO BARSbbDOTSaxFOUR DOTS@10FB0aaCHORASMIAN LETTER ALEPHasSMALL ALEPHasBETHasGI",
  "MELasDALETHasHEasWAWasCURLED WAWasZAYINasHETHasYODHasKAPHasLAMEDHasMEMasNUNasSAMEKHasAYINasPEa",
  "sRESHasSHINasTAWalNUMBER ONEasTWOatHREEasFOURasTENatWENTYasONE HUNDRED@10FE0aaELYMAIC LETTER A",
  "LEPHapBETHapGIMELapDALETHapHEapWAWapZAYINapHETHapTETHapYODHapKAPHapLAMEDHapMEMapNUNapSAMEKHapA",
  "YINapPEapSADHEapQOPHapRESHapSHINapTAWajIGATURE ZAYIN-YODH@11000aaBRAHMI SIGN CANDRABINDUamANUS",
  "VARAamVISARGAamJIHVAMULIYAamUPADHMANIYAahLETTER AapAaoIapIaoUapUaoVOCALIC RaxRawLaxLaoEaoAIaoO",
  "aoAUaoKAapHAaoGAapHAaoNGAaoCAapHAaoJAapHAaoNYAaoTTAaqHAaoDDAaqHAaoNNAaoTAapHAaoDAapHAaoNAaoPAa",
  "pHAaoBAapHAaoMAaoYAaoRAaoLAaoVAaoSHAapSAapAaoHAaoLLAaoOLD TAMIL LLLAayRRAayNNNAahVOWEL SIGN AA",
  "asBHATTIPROLU AAasIatIasUatUasVOCALIC RbbRbaLbbLasEasAIasOasAUaiIRAMAahDANDAaiOUBLE DANDAahPUN",
  "CTUATION DOTavUBLE DOTatLINEatCRESCENT BARatLOTUS@11052ahNUMBER ONEaoTWOapHREEaoFOURapIVEaoSIX",
  "apEVENaoEIGHTaoNINEaoTENapWENTYapHIRTYaoFORTYapIFTYaoSIXTYapEVENTYaoEIGHTYaoNINETYaoONE HUNDRE",
  "DasTHOUSANDahDIGIT ZEROanONEanTWOaoHREEanFOURaoIVEanSIXaoEVENanEIGHTanNINEahSIGN OLD TAMIL VIR",
  "AMAahLETTER OLD TAMIL SHORT EbeOahVOWEL SIGN OLD TAMIL SHORT EbiOahLETTER OLD TAMIL LLA@1107Fa",
  "hNUMBER JOINERaaKAITHI SIGN CANDRABINDUamANUSVARAamVISARGAahLETTER AapAaoIapIaoUapUaoEaoAIaoOa",
  "oAUaoKAapHAaoGAapHAaoNGAaoCAapHAaoJAapHAaoNYAaoTTAaqHAaoDDAaqDHAaqHAaoRHAaoNNAaoTAapHAaoDAapHA",
  "aoNAaoPAapHAaoBAapHAaoMAaoYAaoRAaoLAaoVAaoSHAapSAapAaoHAahVOWEL SIGN AAasIatIasUatUasEasAIasOa",
  "sAUahSIGN VIRAMAamNUKTAahABBREVIATION SIGNahENUMERATION SIGNahNUMBER SIGNahSECTION MARKahDOUBL",
  "E SECTION MARKaiANDAaiOUBLE DANDAahVOWEL SIGN VOCALIC R@110CDahNUMBER SIGN ABOVE@110D0aaSORA S",
  "OMPENG LETTER SAHauTAHauBAHauCAHauDAHauGAHauMAHauNGAHauLAHauNAHauVAHauPAHauYAHauRAHauHAHauKAHa",
  "uJAHauNYAHauAHauEEHauIHauUHauOHauEHauMAE@110F0anDIGIT ZEROatONEatTWOauHREEatFOURauIVEatSIXauEV",
  "ENatEIGHTatNINE@11100aaCHAKMA SIGN CANDRABINDUamANUSVARAamVISARGAahLETTER AAaoIaoUaoEaoKAAapHA",
  "AaoGAAapHAAaoNGAAaoCAAapHAAaoJAAapHAAaoNYAAaoTTAAaqHAAaoDDAAaqHAAaoNNAAaoTAAapHAAaoDAAapHAAaoN",
  "AAaoPAAapHAAaoBAAapHAAaoMAAaoYYAAapAAaoRAAaoLAAaoWAAaoSAAaoHAAahVOWEL SIGN AasIatIasUatUasEasA",
  "IasOasAUasOIahO MARKahAU MARKahVIRAMAahMAAYYAA@11136ahDIGIT ZEROanONEanTWOaoHREEanFOURaoIVEanS",
  "IXaoEVENanEIGHTanNINEahSECTION MARKahDANDAaiOUBLE DANDAahQUESTION MARKahLETTER LHAAahVOWEL SIG",
  "N AAasEIahLETTER VAA@11150aaMAHAJANI LETTER AaqIaqUaqEaqOaqKAarHAaqGAarHAaqCAarHAaqJAarHAaqNYA",
  "aqTTAasHAaqDDAasHAaqNNAaqTAarHAaqDAarHAaqNAaqPAarHAaqBAarHAaqMAaqRAaqLAaqVAaqSAaqHAaqRRAajSIGN",
  " NUKTAajABBREVIATION SIGNajSECTION MARKajLIGATURE SHRI@11180aaSHARADA SIGN CANDRABINDUanANUSVA",
  "RAanVISARGAaiLETTER AaqAapIaqIapUaqUapVOCALIC RayRaxLayLapEapAIapOapAUapKAaqHAapGAaqHAapNGAapC",
  "AaqHAapJAaqHAapNYAapTTAarHAapDDAarHAapNNAapTAaqHAapDAaqHAapNAapPAaqHAapBAaqHAapMAapYAapRAapLAa",
  "qLAapVAapSHAaqSAaqAapHAaiVOWEL SIGN AAatIauIatUauUatVOCALIC RbcRbbLbcLatEatAIatOatAUaiSIGN VIR",
  "AMAanAVAGRAHAanJIHVAMULIYAanUPADHMANIYAaiOMaiDANDAajOUBLE DANDAaiABBREVIATION SIGNaiSEPARATORa",
  "jANDHI MARKajIGN NUKTAaiVOWEL MODIFIER MARKaiEXTRA SHORT VOWEL MARKaiSUTRA MARKaiVOWEL SIGN PR",
  "ISHTHAMATRA EaiSIGN INVERTED CANDRABINDUaiDIGIT ZEROaoONEaoTWOapHREEaoFOURapIVEaoSIXapEVENaoEI",
  "GHTaoNINEaiEKAMaiSIGN SIDDHAMaiHEADSTROKEaiCONTINUATION SIGNaiSECTION MARK-1av2@111E1abINHALA ",
  "ARCHAIC DIGIT ONEawTWOaxHREEawFOURaxIVEawSIXaxEVENawEIGHTawNINEaqNUMBER TENayWENTYayHIRTYaxFOR",
  "TYayIFTYaxSIXTYayEVENTYaxEIGHTYaxNINETYaxONE HUNDREDbbTHOUSAND@11200aaKHOJKI LETTER AapAaoIaoU",
  "aoEaoAIaoOaoAUaoKAapHAaoGAapGAapHAaoNGAaoCAapHAaoJAapJA@11213aoNYAaoTTAaqHAaoDDAaqHAaoNNAaoTAa",
  "pHAaoDAapDDAapHAaoNAaoPAapHAaoBAapBAapHAaoMAaoYAaoRAaoLAaoVAaoSAaoHAaoLLAahVOWEL SIGN AAasIatI",
  "asUasEasAIasOasAUahSIGN ANUSVARAamVIRAMAamNUKTAamSHADDAahDANDAaiOUBLE DANDAahWORD SEPARATORahS",
  "ECTION MARKahDOUBLE SECTION MARKahABBREVIATION SIGNahSIGN SUKUN@11280aaMULTANI LETTER AapIapUa",
  "pEapKAaqHAapGA@11288aqHA@1128AapCAaqHAapJAaqJA@1128FapNYAapTTAarHAapDDAarDAarHAapNNAapTAaqHAap",
  "DAaqHAapNAapPAaqHAapBA@1129FaqHAapMAapYAapRAapLAapVAapSAapHAapRRAaqHAaiSECTION MARK@112B0aaKHU",
  "DAWADI LETTER AasAarIasIarUasUarEarAIarOarAUarKAasHAarGAasGAasHAarNGAarCAasHAarJAasJAasHAarNYA",
  "arTTAatHAarDDAatDAarRRAarDDHAarNNAarTAasHAarDAasHAarNAarPAasHAarBAasBAasHAarMAarYAarRAarLAarVA",
  "arSHAasAarHAakSIGN ANUSVARAakVOWEL SIGN AAavIawIavUawUavEavAIavOavAUakSIGN NUKTAapVIRAMA@112F0",
  "akDIGIT ZEROaqONEaqTWOarHREEaqFOURarIVEaqSIXarEVENaqEIGHTaqNINE@11300aaGRANTHA SIGN COMBINING ",
  "ANUSVARA ABOVEaoANDRABINDUanANUSVARAanVISARGA@11305aiLETTER AaqAapIaqIapUaqUapVOCALIC RaxL@113",
  "0FapEEapAI@11313apOOapAUapKAaqHAapGAaqHAapNGAapCAaqHAapJAaqHAapNYAapTTAarHAapDDAarHAapNNAapTAa",
  "qHAapDAaqHAapNA@1132AapPAaqHAapBAaqHAapMAapYAapRA@11332apLAaqLA@11335apVAapSHAaqSAaqAapHA@1133",
  "BaaCOMBINING BINDU BELOWaaGRANTHA SIGN NUKTAanAVAGRAHAaiVOWEL SIGN AAatIauIatUauUatVOCALIC Rbc",
  "R@11347atEEatAI@1134BatOOatAUaiSIGN VIRAMA@11350aiOM@11357aiAU LENGTH MARK@1135DaiSIGN PLUTAai",
  "LETTER VEDIC ANUSVARAavDOUBLE ANUSVARAaqOCALIC RRaxLLaiVOWEL SIGN VOCALIC LbcL@11366aaCOMBININ",
  "G GRANTHA DIGIT ZEROayONEayTWOazHREEayFOURazIVEaySIX@11370asLETTER AazKAazNAazVIazPA@11400aaNE",
  "WA LETTER AanAamIanIamUanUamVOCALIC RavRauLavLamEamAIamOamAUamKAanHAamGAanHAamNGAaoHAamCAanHAa",
  "mJAanHAamNYAaoHAamTTAaoHAamDDAaoHAamNNAamTAanHAamDAanHAamNAanHAamPAanHAamBAanHAamMAanHAamYAamR",
  "AanHAamLAanHAamWAamSHAanSAanAamHAafVOWEL SIGN AAaqIarIaqUarUaqVOCALIC RazRayLazLaqEaqAIaqOaqAU",
  "afSIGN VIRAMAakCANDRABINDUakANUSVARAakVISARGAakNUKTAakAVAGRAHAakFINAL ANUSVARAafOMafSIDDHIafDA",
  "NDAagOUBLE DANDAafCOMMAafGAP FILLERafABBREVIATION SIGNafDIGIT ZEROalONEalTWOamHREEalFOURamIVEa",
  "lSIXamEVENalEIGHTalNINEagOUBLE COMMAafPLACEHOLDER MARK@1145DafINSERTION SIGNafSANDHI MARKafLET",
  "TER VEDIC ANUSVARAafSIGN JIHVAMULIYAakUPADHMANIYA@11480aaTIRHUTA ANJIaiLETTER AaqAapIaqIapUaqU",
  "apVOCALIC RayRaxLayLapEapAIapOapAUapKAaqHAapGAaqHAapNGAapCAaqHAapJAaqHAapNYAapTTAarHAapDDAarHA",
  "apNNAapTAaqHAapDAaqHAapNAapPAaqHAapBAaqHAapMAapYAapRAapLAapVAapSHAaqSAaqAapHAaiVOWEL SIGN AAat",
  "IauIatUauUatVOCALIC RbcRbbLbcLatEatSHORT EatAIatOatSHORT OatAUaiSIGN CANDRABINDUanANUSVARAanVI",
  "SARGAapRAMAanNUKTAanAVAGRAHAaiGVANGaiABBREVIATION SIGNaiOM@114D0aiDIGIT ZEROaoONEaoTWOapHREEao",
  "FOURapIVEaoSIXapEVENaoEIGHTaoNINE@11580aaSIDDHAM LETTER AaqAapIaqIapUaqUapVOCALIC RayRaxLayLap",
  "EapAIapOapAUapKAaqHAapGAaqHAapNGAapCAaqHAapJAaqHAapNYAapTTAarHAapDDAarHAapNNAapTAaqHAapDAaqHAa",
  "pNAapPAaqHAapBAaqHAapMAapYAapRAapLAapVAapSHAaqSAaqAapHAaiVOWEL SIGN AAatIauIatUauUatVOCALIC Rb",
  "cR@115B8atEatAIatOatAUaiSIGN CANDRABINDUanANUSVARAanVISARGAapRAMAanNUKTAanSIDDHAMaiDANDAajOUBL",
  "E DANDAaiSEPARATOR DOTasBARaiREPETITION MARK-1ay2ay3aiEND OF TEXT MARKaiSECTION MARK WITH TRID",
  "ENT AND U-SHAPED ORNAMENTSbmDOTTED CRESCENTSbaRAYS AND DOTTED CRESCENTSbqDOUBLE CRESCENTSbqTRI",
  "PLE CRESCENTSavDOUBLE RINGbg WITH RAYSavWITH DOUBLE CRESCENTSbaTRIPLE CRESCENTSbaQUADRUPLE CRE",
  "SCENTSbaSEPTUPLE CRESCENTSbaCIRCLES AND RAYSbmTWO ENCLOSURESbmFOUR ENCLOSURESaiLETTER THREE-CI",
  "RCLE ALTERNATE IaqWO-CIRCLE ALTERNATE IblIapALTERNATE UaiVOWEL SIGN ALTERNATE UbeU@11600aaMODI",
  " LETTER AanAamIanIamUanUamVOCALIC RavRauLavLamEamAIamOamAUamKAanHAamGAanHAamNGAamCAanHAamJAanH",
  "AamNYAamTTAaoHAamDDAaoHAamNNAamTAanHAamDAanHAamNAamPAanHAamBAanHAamMAamYAamRAamLAamVAamSHAanSA",
  "anAamHAamLLAafVOWEL SIGN AAaqIarIaqUarUaqVOCALIC RazRayLazLaqEaqAIaqOaqAUafSIGN ANUSVARAakVISA",
  "RGAamRAMAakARDHACANDRAafDANDAagOUBLE DANDAafABBREVIATION SIGNafSIGN HUVA@11650afDIGIT ZEROalON",
  "EalTWOamHREEalFOURamIVEalSIXamEVENalEIGHTalNINE@11660acNGOLIAN BIRGA WITH ORNAMENTakROTATED BI",
  "RGAakDOUBLE BIRGA WITH ORNAMENTakTRIPLE BIRGA WITH ORNAMENTakBIRGA WITH DOUBLE ORNAMENTakROTAT",
  "ED BIRGA WITH ORNAMENTbdDOUBLE ORNAMENTakINVERTED BIRGAay WITH DOUBLE ORNAMENTakSWIRL BIRGAav ",
  "WITH ORNAMENTbbDOUBLE ORNAMENTakTURNED SWIRL BIRGA WITH DOUBLE ORNAMENT@11680aaTAKRI LETTER Aa",
  "oAanIaoIanUaoUanEanAIanOanAUanKAaoHAanGAaoHAanNGAanCAaoHAanJAaoHAanNYAanTTAapHAanDDAapHAanNNAa",
  "nTAaoHAanDAaoHAanNAanPAaoHAanBAaoHAanMAanYAanRAanLAanVAanSHAaoAanHAanRRAagSIGN ANUSVARAalVISAR",
  "GAagVOWEL SIGN AAarIasIarUasUarEarAIarOarAUagSIGN VIRAMAalNUKTAagLETTER ARCHAIC KHAagABBREVIAT",
  "ION SIGN@116C0agDIGIT ZEROamONEamTWOanHREEamFOURanIVEamSIXanEVENamEIGHTamNINE@11700aaAHOM LETT",
  "ER KAanHAamNGAanAamTAamALTERNATE TAamPAanHAamBAamMAamJAamCHAamTHAamRAamLAamSAamNYAamHAamAamDAa",
  "nHAamGAamALTERNATE GAamGHAamBHAamJHAamALTERNATE BA@1171DafCONSONANT SIGN MEDIAL LAbbRAbbLIGATI",
  "NG RAafVOWEL SIGN AarAaqIarIaqUarUaqEaqAWaqOaqAIarMafSIGN KILLER@11730afDIGIT ZEROalONEalTWOam",
  "HREEalFOURamIVEalSIXamEVENalEIGHTalNINEafNUMBER TENanWENTYafSIGN SMALL SECTIONalECTIONakRULAIa",
  "gYMBOL VIafLETTER CAamTTAaoHAamDDAaoHAamNNAamLLA@11800aaDOGRA LETTER AaoAanIaoIanUaoUanEanAIan",
  "OanAUanKAaoHAanGAaoHAanNGAanCAaoHAanJAaoHAanNYAanTTAapHAanDDAapHAanNNAanTAaoHAanDAaoHAanNAanPA",
  "aoHAanBAaoHAanMAanYAanRAanLAanVAanSHAaoSAaoAanHAanRRAagVOWEL SIGN AAarIasIarUasUarVOCALIC RbaR",
  "arEarAIarOarAUagSIGN ANUSVARAalVISARGAanRAMAalNUKTAagABBREVIATION SIGN@118A0aaWARANG CITI CAPI",
  "TAL LETTER NGAAbbAbbWIbbYUbcAbcObbIIbbUUbbEbbObbANGbbGAbbKObbENYbbYUJbbUCbbENNbbODDbbTTEbbNUNG",
  "bbDAbbATbcMbbBUbbPUbbHIYObcOLObdRRbcARbbSSUUbcIIbbVIYOamSMALL LETTER NGAAazAazWIazYUbaAbaOazII",
  "azUUazEazOazANGazGAazKOazENYazYUJazUCazENNazODDazTTEazNUNGazDAazATbaMazBUazPUazHIYObaOLObbRRba",
  "ARazSSUUbaIIazVIYOamDIGIT ZEROasONEasTWOatHREEasFOURatIVEasSIXatEVENasEIGHTasNINEamNUMBER TENa",
  "uWENTYauHIRTYatFORTYauIFTYatSIXTYauEVENTYatEIGHTYatNINETY@118FFamOMaaDIVES AKURU LETTER AauAat",
  "IauIatUauUatE@11909atO@1190CatKAauHAatGAauHAatNGAatCAauHAatJA@11915atNYAatTTA@11918atDDAavHAat",
  "NNAatTAauHAatDAauHAatNAatPAauHAatBAauHAatMAatYAauYAatRAatLAatVAatSHAauSAauAatHAatLLAatZAamVOWE",
  "L SIGN AAaxIayIaxUayUaxE@11937axAIaxO@1193BamSIGN ANUSVARAarCANDRABINDUarHALANTAamVIRAMAamPREF",
  "IXED NASAL SIGNamMEDIAL YAamINITIAL RAamMEDIAL RAamSIGN NUKTAamDOUBLE DANDAamGAP FILLERamEND O",
  "F TEXT MARK@11950amDIGIT ZEROasONEasTWOatHREEasFOURatIVEasSIXatEVENasEIGHTasNINE@119A0aaNANDIN",
  "AGARI LETTER AauAatIauIatUauUatVOCALIC RbcR@119AAatEatAIatOatAUatKAauHAatGAauHAatNGAatCAauHAat",
  "JAauHAatNYAatTTAavHAatDDAavHAatNNAatTAauHAatDAauHAatNAatPAauHAatBAauHAatMAatYAatRAatLAatVAatSH",
  "AauSAauAatHAatLLAatRRAamVOWEL SIGN AAaxIayIaxUayUaxVOCALIC RbgR@119DAaxEaxAIaxOaxAUamSIGN ANUS",
  "VARAarVISARGAatRAMAarAVAGRAHAarSIDDHAMamHEADSTROKEamVOWEL SIGN PRISHTHAMATRA E@11A00aaZANABAZA",
  "R SQUARE LETTER AarVOWEL SIGN IbcUEbdbcEbcOEbdbcAIbdUbcREVERSED IaxLENGTH MARKarLETTER KAazHAa",
  "yGAazHAayNGAayCAazHAayJAayNYAayTTAbaHAayDDAbaHAayNNAayTAazHAayDAazHAayNAayPAazHAayBAazHAayMAay",
  "TSAbaHAayDZAbaHAayZHAazAay-AayYAayRAayLAayVAaySHAazSAazAayHAayKSSAarFINAL CONSONANT MARKarSIGN",
  " VIRAMAawCANDRABINDUbh WITH ORNAMENTbc WITH ORNAMENTawANUSVARAawVISARGAarCLUSTER-INITIAL LETTE",
  "R RAazFINAL LETTER YAbmRAbmLAbmVAarINITIAL HEAD MARKarCLOSING HEAD MARKarMARK TSHEGawSHADawDOU",
  "BLE SHADawLONG TSHEGarINITIAL DOUBLE-LINED HEAD MARKarCLOSING DOUBLE-LINED HEAD MARKarSUBJOINE",
  "R@11A50aaSOYOMBO LETTER AaiVOWEL SIGN IatUEauatEatOauEatAIauUatVOCALIC RbbLaoLENGTH MARKaiLETT",
  "ER KAaqHAapGAaqHAapNGAapCAaqHAapJAaqHAapNYAapTTAarHAapDDAarHAapNNAapTAaqHAapDAaqHAapNAapPAaqHA",
  "apBAaqHAapMAapTSAarHAapDZAapZHAaqAap-AapYAapRAapLAapVAapSHAaqSAaqAapHAapKSSAaiSIGN JIHVAMULIYA",
  "anUPADHMANIYAaiCLUSTER-INITIAL LETTER RAbfLAbfSHAbgAaiFINAL CONSONANT SIGN GbdKbdNGbdDbdNbdBbd",
  "MbdRbdLbdSHbebd-AaiSIGN ANUSVARAanVISARGAaiGEMINATION MARKaiSUBJOINERaiMARK TSHEGanSHADanDOUBL",
  "E SHADanPLUTAaiHEAD MARK WITH MOON AND SUN AND TRIPLE FLAMEboFLAMEbjaiTERMINAL MARK-1aw2@11AB0",
  "aaCANADIAN SYLLABICS NATTILIK HIbeIbdObeObdAbeAbcSHRIbgIbfObgObfAbgAatSPEavIavOavAaaPAU CIN HA",
  "U LETTER PAatKAatLAatMAatDAatZAatVAatNGAatHAatGAatKHAatSAatBAatCAatTAauHAatNAatPHAatRAatFAatCH",
  "AatAatEatIatOatUauAatIAatFINAL PazKazTazMazNazLazWazNGazYamRISING TONE LONGaxamSANDHI GLOTTAL ",
  "STOPamRISING TONE LONG FINALayFINALamSANDHI GLOTTAL STOP FINALatTONE LONGaxax LONG FINALayFINA",
  "LamMID-LEVEL TONEamGLOTTAL STOP VARIANTamMID-LEVEL TONE LONG FINALbbFINALamLOW-FALLING TONE LO",
  "NGbcamGLOTTAL STOPamLOW-FALLING TONE LONG FINALbdFINALamGLOTTAL STOP FINAL@11C00aaBHAIKSUKI LE",
  "TTER AasAarIasIarUasUarVOCALIC RbaRazL@11C0AarEarAIarOarAUarKAasHAarGAasHAarNGAarCAasHAarJAasH",
  "AarNYAarTTAatHAarDDAatHAarNNAarTAasHAarDAasHAarNAarPAasHAarBAasHAarMAarYAarRAarLAarVAarSHAasSA",
  "asAarHAakVOWEL SIGN AAavIawIavUawUavVOCALIC RbeRbdL@11C38avEavAIavOavAUakSIGN CANDRABINDUapANU",
  "SVARAapVISARGAarRAMAapAVAGRAHAakDANDAalOUBLE DANDAakWORD SEPARATORakGAP FILLER-1av2@11C50akDIG",
  "IT ZEROaqONEaqTWOarHREEaqFOURarIVEaqSIXarEVENaqEIGHTaqNINEakNUMBER ONEarTWOasHREEarFOURasIVEar",
  "SIXasEVENarEIGHTarNINEarTENasWENTYasHIRTYarFORTYasIFTYarSIXTYasEVENTYarEIGHTYarNINETYakHUNDRED",
  "S UNIT MARK@11C70aaMARCHEN HEAD MARKaiMARK SHADaiLETTER KAaqHAapGAapNGAapCAaqHAapJAapNYAapTAaq",
  "HAapDAapNAapPAaqHAapBAapMAapTSAarHAapDZAapWAapZHAaqAap-AapYAapRAapLAapSHAaqAapHAapA@11C92aiSUB",
  "JOINED LETTER KAbaHAazGAazNGAazCAbaHAazJAazNYAazTAbaHAazDAazNAazPAbaHAazBAazMAazTSAbbHAazDZAaz",
  "WAazZHAbaA@11CA9azYAazRAazLAazSHAbaAazHAazAaiVOWEL SIGN AAatIatUatEatOaiSIGN ANUSVARAanCANDRAB",
  "INDU@11D00acSARAM GONDI LETTER AawAavIawIavUawUavE@11D08avAIavO@11D0BavAUavKAawHAavGAawHAavNGA",
  "avCAawHAavJAawHAavNYAavTTAaxHAavDDAaxHAavNNAavTAawHAavDAawHAavNAavPAawHAavBAawHAavMAavYAavRAav",
  "LAavVAavSHAawSAawAavHAavLLAavKSSAavJNYAavTRAaoVOWEL SIGN AAazIbaIazUbaUazVOCALIC R@11D3AazE@11",
  "D3CazAIazO@11D3FazAUaoSIGN ANUSVARAatVISARGAatNUKTAatCANDRAatHALANTAaoVIRAMAaoREPHAapA-KARA@11",
  "D50aoDIGIT ZEROauONEauTWOavHREEauFOURavIVEauSIXavEVENauEIGHTauNINE@11D60aaGUNJALA GONDI LETTER",
  " AawAavIawIavUawU@11D67avEEavAI@11D6AavOOavAUavYAavVAavBAawHAavMAavKAawHAavTAawHAavLAavGAawHAa",
  "vDAawHAavNAavCAawHAavTTAaxHAavLLAavJAawHAavDDAaxHAavNGAavPAawHAavHAavRAavSAaoVOWEL SIGN AAazIb",
  "aIazUbaU@11D90azEEazAI@11D93azOOazAUaoSIGN ANUSVARAatVISARGAaoVIRAMAaoOM@11DA0aoDIGIT ZEROauON",
  "EauTWOavHREEauFOURavIVEauSIXavEVENauEIGHTauNINE@11EE0aaMAKASAR LETTER KAapGAapNGAapPAapBAapMAa",
  "pTAapDAapNAapCAapJAapNYAapYAapRAapLAapVAapSAapAaiANGKAaiVOWEL SIGN IatUatEatOaiPASSIMBANGaiEND",
  " OF SECTION@11FB0aaLISU LETTER YHA@11FC0aaTAMIL FRACTION ONE THREE-HUNDRED-AND-TWENTIETHatONE-",
  "HUNDRED-AND-SIXTIETHatEIGHTIETHatSIXTY-FOURTHatFORTIETHatTHIRTY-SECONDapTHREE EIGHTIETHSavSIXT",
  "Y-FOURTHSapONE TWENTIETHatSIXTEENTH-1bd2atTENTHatEIGHTHapTHREE TWENTIETHSavSIXTEENTHSapONE FIF",
  "THatQUARTERatHALF-1ay2apTHREE QUARTERSapDOWNSCALING FACTOR KIIZHagSIGN NELalCEVITUalAAZHAAKKUa",
  "lUZHAKKUalMUUVUZHAKKUalKURUNIalPATHAKKUalMUKKURUNIalKAACUalPANAMamONalVARAAKANalPAARAMalKUZHIa",
  "lVELIagWET CULTIVATION SIGNagDRY CULTIVATION SIGNagLAND SIGNagSALT PAN SIGNagTRADITIONAL CREDI",
  "T SIGNasNUMBER SIGNagCURRENT SIGNagAND ODD SIGNagSPENT SIGNagTOTAL SIGNagIN POSSESSION SIGNagS",
  "TARTING FROM SIGNahIGN MUTHALIYAalVAKAIYARAA@11FFFagPUNCTUATION END OF TEXTaaCUNEIFORM SIGN Aa",
  "q TIMES AaxBADaxGAN2 TENUaxHAaxIGIaxLAGAR GUNUaxMUSHaxSAGaq2aqBar TIMES ASH2ayDUN3 GUNUayGALba",
  "N2 TENUayHAayIGI GUNUazMINayLAGABaySHESHayU PLUS U PLUS UasGUNUar2as TIMES BALAGazGAN2 TENUazM",
  "E PLUS ENazSHA3azTAK4aqDaqKar TIMES ERIN2aySHITA PLUS GISHaqLar TIMES ALayDIM2ayGISHayHAayKAD3",
  "azIaySHEayUSHarANarEPHaqMARat TIMES SHEaqNar OVER ANasTHREE TIMESasPLUS NAGA OPPOSING AN PLUS ",
  "NAGAbcSQUAREDarSHEaqPINaqRADat TIMES KURarKABaqSAL2arHas ZIDA TENUatKABA TENUatOVER ASH TUG2 O",
  "VER TUG2 TUG2 OVER TUG2 PAPbcOVER ASHbk CROSSING ASH OVER ASH OVER ASHas2asGABapBAarDarG3arHAR",
  "2arLas OVER BALasAGarRasA2aqIar TIMES AayGARayIGI GUNUaqUar OVER BU ABbaUNasCROSSING BUarLUGau",
  " OVER BULUGarRas2apDAarGas KISIM5 TIMES A PLUS MASHbhMARbgBALAGbhIbgGAbi PLUS MASHbhIbiR2bhUDb",
  "gHAbgIRbi PLUS LUbgKAKbgLAbhUbi PLUS MASH2biMbgNEbgPAP PLUS PAPbgSIbgTAK4bgU2 PLUS GIR2bhSHarM",
  "arRasA3at4aqIarBarMas TIMES SHEas2arNas KASKAL U GUNU DISHarSHaqUar OVER DUasGUNUasSHESHIGarBa",
  "s TIMES ESH2as2arGasUDarHarNas3at GUNUay GUNUas4arR2apEaq TIMES PAParOVER E NUN OVER NUNaq2ar ",
  "TIMES A PLUS HA PLUS DAayGARayMIaySALazHEayUaqDINaqGIRaqLaqNar TIMES GAN2bc TENUayMEasCROSSING",
  " ENasOPPOSING ENasSQUAREDaqRENarIN2aqSH2aqZENat TIMES Abb PLUS LALbk TIMES LALbbNbaBADbaDUN3 G",
  "UNUbj GUNUbaHAbc GUNUbaIGI GUNUbaKASKALbg SQUAREDbbU3baLAbcL TIMES LALbbIbbUbaU2bbDapGAar GUNU",
  "ar2as TIMES A PLUS DA PLUS HAbgHAbgIGIbaB2 TENU PLUS TABbaNbaSHbc2 PLUS GALazBADbbR PLUS RAbaU",
  "Rbc PLUS RAazDAbaIbbM TIMES SHEbaUBazELbb PLUS LAbaNbb TIMES GAN2 TENUazGAN2 TENUbbRbaIbb4bc P",
  "LUS AbbR2 PLUS SUazHA PLUS LU PLUS ESH2bbLbc PLUS LAbaI PLUS LIbaUB2azIGI GUNUbaSH PLUS HU PLU",
  "S ASHazKAKbbSKALbaIDbc PLUS LALbaU3 PLUS ANazLAazME PLUS ENbaIazNUNbc OVER NUNazPAazSALbbRbaHE",
  "bc PLUS TURbbIDbaUMazTAK4azUbaDbb PLUS DUatOVER GA2arBAat CROSSING GABAarDas OVER GAD GAR OVER",
  " GARarLas GAD OVER GAD GAR OVER GARasAMarMarNas2at TENUauOVER GAN2auCROSSING GAN2arRas3arSHANa",
  "qESHTINaw TIMES KURaqIar TIMES EayUasCROSSING GIar4as OVER GI4atCROSSING GI4arDIMarR2at GUNUas",
  "3at TIMES A PLUS IGIbaGAN2 TENUbaIGIbaLU PLUS IGIbaPAarSALasHat CROSSING GISHauTIMES BADbaTAK4",
  "avENUaqUar CROSSING GUar2as TIMES KAKbc TIMES IGI GUNUazNUNazSAL PLUS TUG2atGUNUarDas TIMES A ",
  "PLUS KURazKURatOVER GUD LUGALarLarMas TIMES SHEarRas7asUNatSHapHAar TENUasGUNUarLaqIar TIMES A",
  "SHbb2ayBADayDISHayGADayKINayNUNaySHEayUaqUarB2at TIMES ANbaHALbaKASKALbaLISHbaUDarL2apIaq AaqB",
  "aqDIMat OVER IDIM BURbeSQUAREDaqGarIas DIBatRIatOVER IGI SHIR OVER SHIR UD OVER UDatGUNUaqLar ",
  "TIMES GAN2 TENUar2aqMar TIMES TAK4asCROSSING IMasOPPOSING IMasSQUAREDarINaqNaqRaqSHapKAar TIME",
  "S AazDba PLUS KU3azSH2ayBADbaLAGbaRazIayERIN2azSH2ayGAbaLbaN2 TENUbaRbb PLUS SHA3 PLUS AazIbaR",
  "2baSH PLUS SARbdCROSSING GISHazUbaR7ayIGIazMayKAKazIbaDayLIazUayMEba PLUS DUbgGIbgTEazIba PLUS",
  " NUNUZayNEazUNayPIayRUaySAbaRazHAbaEbaIDbaUazIGazUHURayTARayUaz2azDazMUM TIMES PAazSHayZIar2as",
  " CROSSING KA2arBarD2as3as4as5at OVER KAD5arKas TIMES IGI GUNUarLas TIMES BADatCROSSING KALarM2",
  "as4arSKALav LAGAB TIMES U OVER LAGAB TIMES UawOVER KASKAL LAGAB TIMES U OVER LAGAB TIMES UaqES",
  "H2aqIar TIMES BADayUazDarDarNarSALasHasIM5av OVER KISIM5aqUar OVER HI TIMES ASH2 KU OVER HI TI",
  "MES ASH2ar3ar4as VARIANT FORMar7arLas GUNUarNarRas OPPOSING KURarSHU2aqWU318apLAarGABau TIMES ",
  "Abc PLUS DA PLUS HAbiGARbiLALbcLbcNbcSH ZIDA TENUbbBADbcIbbDARbbENbbGAbdRbcUDbe PLUS GUDbbHAbd",
  "LbcI TIMES NUNbbIGI GUNUbcMbd PLUS HAbjLUbbKIbdNbcU3bdLbe PLUS HI PLUS AbbLAGABbcISHbcUbdLbbME",
  "bd PLUS ENbcUSHbbNEbbSHE PLUS SUMbdITA PLUS GISH PLUS ERIN2brTENUbdU2bf PLUS SHU2bcUMbbTAGbdK4",
  "bcE PLUS A PLUS SU PLUS NAbbUbc PLUS AbiU PLUS Ubc2 PLUS ASHbcDbcSHavSQUAREDatRau TIMES SHEbe ",
  "PLUS SUMavGUNUaz OVER LAGAR GUNU SHEarHSHUarLas TIMES LALarMas TIMES KURbc PLUS RUaqIarLarMMU2",
  "arSHaqUar TIMES BADar2as TIMES ALazBADazESH2bd TENUazGAN2 TENUazHI TIMES BADazIMazKAD2bc3bd PL",
  "US ASHbaIazLA PLUS ASHbbGABazME PLUS ENazNEbaUazSI PLUS ASHbbK2 PLUS BUazTUG2auENUatCROSSING L",
  "U2atOPPOSING LU2atSQUAREDauHESHIGar3arGALau OVER LUGALawPPOSING LUGALavSHESHIGarHarLarMas OVER",
  " LUMbb GAR OVER GARapMAar TIMES TAK4asGUNUar2arHarRarSHat2aqEarSaqIarNaqUar OVER MUarGas GUNUa",
  "rNSUBarRGU2arSHat TIMES AbaKURbaZAauOVER MUSHbd TIMES A PLUS NAauCROSSING MUSHat3au TIMES Abc ",
  "PLUS DIbbDIavGUNUapNAar2arGAat INVERTEDauTIMES SHU TENUauOPPOSING NAGAatRarM NUTILLUasas2aqEar",
  " TIMES AayUDasSHESHIGaqIar TIMES Ear2arMas TIMES GAN2 TENUbbR PLUS GAN2 TENUarNDA2av TIMES ANb",
  "dSHbf PLUS ASHbcGUDbcME PLUS GAN2 TENUbcNEbdUNbcSHEbf PLUS A ANbmSHbo PLUS ASHbcU2 PLUS ASHbdS",
  "HarSAGaqUar11arNas LAGAR TIMES GARbfMASHbfSALbi OVER NUN LAGAR TIMES SALbfUSHatTENUatOVER NUNa",
  "tCROSSING NUNbf LAGAR OVER LAGARasUZau AB2 TIMES ASHGABbfBIbfDUGbfGUDbfIGI GUNUbfKAD3bfLAbfNEb",
  "fSILA3bfU2avKISIM5 TIMES BIbk UapPAarDarNarPaqESH2aqIar TIMES AazBayBIazUayEayIazBayUaz2asCROS",
  "SING PIarRIGau TIMES KALbbUDbbZAavOPPOSING PIRIGapRAarBaqIaqUapSAarG NUTILLUasas TIMES AazDUbb",
  "BazHAazKAKbaURazLUMazMIazNUNazSALbaHIDazTABazU2baBbaMbaRbaSHatOVER SAGatGUNUarLas LAGAB TIMES ",
  "ASH2arNGA2arRaqHAas3at TIMES AbaBADbaGISHbaNEbaSHU2baTURbaUbb PLUS Aas6asB6asR2arEas HUatOVER ",
  "SHE GAD OVER GAD GAR OVER GARbcTAB OVER TAB GAR OVER GARasG9asNasSHau2auLAMarIDat TIMES AbaIMa",
  "sMat TIMES AbaBALbbULUGbaDINbaGARbaIGIbd GUNUbaKUSHU2baLULbaMUGbaSALasNIGasRat TENUauOVER SHIR",
  " BUR OVER BURasTAarUas OVER INVERTED SHUas2asBURaqIar GUNUarGas4at OVER SIG4 SHU2arK2arLA3aqUa",
  "r OVER SUarDas2arHURarMasASHarRas9apTAar ASTERISKasTIMES HIayMIasGUNUarBas OVER TAB NI OVER NI",
  " DISH OVER DISHatSQUAREDarGas TIMES BIazGUDazSHEbbUazTUG2azUDarK4arRaqEar GUNUaqIar TENUarLarR",
  "as TIMES TAK4atOVER TIRbb GAD OVER GAD GAR OVER GARaqUarG2arKarMarRas OVER TUR ZA OVER ZAapUaq",
  " GUDarU UarOVER U PA OVER PA GAR OVER GARaySUR OVER SURayU REVERSED OVER U REVERSEDaq2aqBaqDar",
  " KUSHU2asTIMES BADayMIayU PLUS U PLUS Ubn GUNUasGUNUasSHESHIGaz TIMES BADarUGaqMar TIMES LAGAB",
  "ayME PLUS DAaySHA3ayUarBINarUMat TIMES KASKALbaPAaqNar GUNUaqRar CROSSING URasSHESHIGar2as TIM",
  "ES A PLUS HAbgNAbaLazHAazNUNazU2bb PLUS ASHbhBIar4arIas3arUas TIMES AbaSHGABazBARazDUNazGAbbLb",
  "bN2 TENUbbRbaUazHAazIGIbaMbaSHazKIazLUMazMINazPAazSHEbaIG4azTUazU PLUS GUDbaDbaRUDAasDAau TIME",
  "S UaqSHas TIMES AazKUbbRazTAK4asXas2asUMXaqTUKIaqZ3as TIMES KASKALarUapZAar TENUasSQUARED TIME",
  "S KURarGarMXaqE2aqIar OVER ZIar3arBas KABA TENUarGarZ2aqUar5as TIMES AarBURarMapKAP ELAMITEapA",
  "B TIMES NUNar2 TIMES AaqMAR TIMES KUGapDAG KISIM5 TIMES U2 PLUS MASHas3aqISH PLUS SHUaqUB TIME",
  "S SHEapEZEN TIMES GUDbaSHEapGA2 TIMES AN PLUS KAK PLUS AbaSH2aqE22aqIGapHUSHapKA TIMES ANSHEaz",
  "SH3ayGISHazUDayHI TIMES ASH2ayLUMayPAaySHULayTUayUR2apLAGAB TIMES GIaqU2 SHESHIG TIMES BADatTI",
  "MES ESH2 PLUS LALazSHUapMESHaqUSH3 TIMES ZAapNA4aqINas9asDA2 TIMES BALbcGIaqU11 ROTATED NINETY",
  " DEGREESapPESH2 ASTERISKaqIR2apSAG TIMES IGI GUNUapTI2apUM TIMES MEaq U@12400akNUMERIC SIGN TW",
  "O ASHayHREE ASHaxFOUR ASHayIVE ASHaxSIX ASHayEVEN ASHaxEIGHT ASHaxNINE ASHaxTHREE DISHaxFOUR D",
  "ISHayIVE DISHaxSIX DISHayEVEN DISHaxEIGHT DISHaxNINE DISHaxFOUR UayIVE UaxSIX UayEVEN UaxEIGHT",
  " UaxNINE UaxONE GESH2axTWO GESH2ayHREE GESH2axFOUR GESH2ayIVE GESH2axSIX GESH2ayEVEN GESH2axEI",
  "GHT GESH2axNINE GESH2axONE GESHUaxTWO GESHUayHREE GESHUaxFOUR GESHUayIVE GESHUaxTWO SHAR2ayHRE",
  "E SHAR2bi VARIANT FORMaxFOUR SHAR2ayIVE SHAR2axSIX SHAR2ayEVEN SHAR2axEIGHT SHAR2axNINE SHAR2a",
  "xONE SHARUaxTWO SHARUayHREE SHARUbi VARIANT FORMaxFOUR SHARUayIVE SHARUaxSHAR2 TIMES GAL PLUS ",
  "DISHbsMINaxONE BURUaxTWO BURUayHREE BURUbh VARIANT FORMaxFOUR BURUayIVE BURUaxTHREE VARIANT FO",
  "RM ESH16bt21axFOUR VARIANT FORM LIMMUbu4bu AbvBaxSIX VARIANT FORM ASH9ayEVEN VARIANT FORM IMIN",
  "3bu AbvBaxEIGHT VARIANT FORM USSUbu3axNINE VARIANT FORM ILIMMUbv3bv4bv AaxTWO ASH TENUayHREE A",
  "SH TENUaxFOUR ASH TENUayIVE ASH TENUaxSIX ASH TENUaxONE BAN2axTWO BAN2ayHREE BAN2axFOUR BAN2bg",
  " VARIANT FORMayIVE BAN2bg VARIANT FORMaxNIGIDAMINbdESHaxONE ESHE3axTWO ESHE3axONE THIRD DISHax",
  "TWO THIRDS DISHaxFIVE SIXTHS DISHaxONE THIRD VARIANT FORM AaxTWO THIRDS VARIANT FORM AaxONE EI",
  "GHTH ASHbbQUARTER ASHayLD ASSYRIAN ONE SIXTHboQUARTERayNE QUARTER GURbbHALF GURaxELAMITE ONE T",
  "HIRDbfTWO THIRDSbfFORTYbgIFTYaxFOUR U VARIANT FORMayIVE U VARIANT FORMaxSIX U VARIANT FORMayEV",
  "EN U VARIANT FORMaxEIGHT U VARIANT FORMaxNINE U VARIANT FORM@12470akPUNCTUATION SIGN OLD ASSYR",
  "IAN WORD DIVIDERbbVERTICAL COLONbbDIAGONAL COLONbkTRICOLONbkQUADCOLON@12480akSIGN AB TIMES NUN",
  " TENUaySHU2aqD TIMES ESH2apBAD TIMES DISH TENUarHAR2 TIMES AB2bcNIbcZAaqU OVER BU TIMES NA2apD",
  "A TIMES TAK4arG TIMES KURaqIM TIMES IGIazU U Uas2 TIMES UDaqUG TIMES ANSHEbaSHbc AT LEFTazDINb",
  "aUNazERIN2azGAbaIbbR2 GUNUbbSHazHAbaIazIGI GUNUazKASKALbaURbbSHU2bf PLUS KASKALazLAK-020bbMbc ",
  "TIMES KURbaUH PLUS GISHazMASHbaESbaIazNIazPIazSHEbaI GUNUapE2 TIMES KURayPAPaqRIN2 XaqSH2 CROS",
  "SING ESH2aqZEN SHESHIG TIMES ASHbiHIbiIGI GUNUbiLAbkLbiMEbkSbiSUauTIMES SUapGA2 TIMES BAHAR2az",
  "DIM GUNUbaUG TIMES IGI GUNUbjKASKALazERENazGAbbR PLUS DIbiNEazHA PLUS AazKUSHU2 PLUS KASKALazL",
  "AMbc TIMES KURbaUHazMUSHazNEbb PLUS E2bhGIazSHIMazZIZ2arBA ROTATED NINETY DEGREESaqESHTIN TIME",
  "S UaqISH TIMES GISH CROSSING GISHaqU2 TIMES IGI GUNUarD PLUS GISH TIMES TAK4apHA TENU GUNUaqI ",
  "TIMES ASH OVER HI TIMES ASHapKA TIMES BUayKAayU U UazRapLAGAB TIMES ZU OVER ZUarK-003au21av5au",
  "30au50av1au62au79 OVER LAK-079 GUNUau80av1 OVER LAK-081au92at130au42at210av9au20av5av8au38au65",
  "av6at343av7av8au83av4au90at441av9aw TIMES GUbdIGIbdPAP PLUS LU3bmPAP PLUS LU3bdU2 PLUS BAau50a",
  "v7au70au83au90av2av3av5at550at608au17aw TIMES ASHbdBADbdDUN3 GUNU GUNUbdKU3bdLAbdTARbeEbdU2beD",
  "beRUDAau36au48aw TIMES DUBbdGAbdIGIbg GUNUbdNIbdPAP PLUS PAP PLUS LU3bdSHESH PLUS KIbdUDbeRUDA",
  "at724au49aqU2 GUNU TIMES ASHatTIMES DISHazHALazPAPbc PLUS PAP PLUS LU3azTAK4apMI PLUS ZA7aqUSH",
  " OVER MUSH TIMES GAbkKAKapNINDA2 TIMES DIM GUNUbcGISHbdULbcHIbcKESH2bcLAK-050bcMASHbcPAP PLUS ",
  "PAPbcUbd PLUS UbdRUDAapSAG GUNU TIMES HAatTIMES ENazSHE AT LEFTazTAK4aqHA6 TENUarE OVER SHEatP",
  "LUS HUB2ayNAM2aySARarU2 PLUS DUG TIMES NIazE2 TIMES ANaqI TIMES TAK4apTAK4 PLUS SAGaqUM TIMES ",
  "GAN2 TENUazTHREE DISHapUR2 INVERTEDatTIMES UDarU TIMES DARA3azLAK-668baU3apZA7aqU OVER ZU PLUS",
  " SARar5 TIMES THREE DISH TENU@12F90abYPRO-MINOAN SIGN CM001aw2aw4aw5aw6aw7aw8aw9av10aw1aw2axBa",
  "w3aw5aw7aw9av21aw3aw4aw5aw6aw7aw8aw9av30aw3aw4aw5aw6aw7aw8aw9av40aw1aw4aw6aw7aw9av50aw1aw2aw3a",
  "w4aw5aw6aw8aw9av60aw1aw2aw3aw4aw6aw7aw8aw9av70aw1aw2aw3aw4aw5axBaw6aw8aw9av80aw1aw2aw3aw4aw5aw",
  "6aw7aw8aw9av90aw1aw2aw4aw5aw6aw7aw8aw9au100aw1aw2aw3aw4aw5aw7aw8aw9av10aw2aw4au301aw2"]

end EntityGen.Text.CharName
