/-! Names of characters: hieroglyphs and scripts that came late. -/

namespace EntityGen.Text.CharName

/-- Names by code point, in the form that `CharName.find?` reads. -/
def hieroglyphsNames : List String := [
  "@13000aaEGYPTIAN HIEROGLYPH A001ax2ax3ax4ax5ayAax6ayAayBax7ax8ax9aw10ax1ax2ax3ax4ayAax5ax6ax7a",
  "yAax8ax9aw20ax1ax2ax3ax4ax5ax6ax7ax8ax9aw30ax1ax2ayAax3ax4ax5ax6ax7ax8ax9aw40ayAax1ax2ayAax3ay",
  "Aax4ax5ayAax6ax7ax8ax9aw50ax1ax2ax3ax4ax5ax6ax7ax8ax9aw60ax1ax2ax3ax4ax5ax6ax7ax8ax9aw70auB001",
  "ax2ax3ax4ax5ayAax6ax7ax8ax9auC001ax2ayAayBayCax3ax4ax5ax6ax7ax8ax9aw10ayAax1ax2ax3ax4ax5ax6ax7",
  "ax8ax9aw20ax1ax2ax3ax4auD001ax2ax3ax4ax5ax6ax7ax8ayAax9aw10ax1ax2ax3ax4ax5ax6ax7ax8ax9aw20ax1a",
  "x2ax3ax4ax5ax6ax7ayAax8ax9aw30ax1ayAax2ax3ax4ayAax5ax6ax7ax8ax9aw40ax1ax2ax3ax4ax5ax6ayAax7ax8",
  "ayAax9aw50ayAayBayCayDayEayFayGayHayIax1ax2ayAax3ax4ayAax5ax6ax7ax8ax9aw60ax1ax2ax3ax4ax5ax6ax",
  "7ayAayBayCayDayEayFayGayHauE001ax2ax3ax4ax5ax6ax7ax8ayAax9ayAaw10ax1ax2ax3ax4ax5ax6ayAax7ayAax",
  "8ax9aw20ayAax1ax2ax3ax4ax5ax6ax7ax8ayAax9aw30ax1ax2ax3ax4ayAax6ax7ax8auF001ayAax2ax3ax4ax5ax6a",
  "x7ax8ax9aw10ax1ax2ax3ayAax4ax5ax6ax7ax8ax9aw20ax1ayAax2ax3ax4ax5ax6ax7ax8ax9aw30ax1ayAax2ax3ax",
  "4ax5ax6ax7ayAax8ayAax9aw40ax1ax2ax3ax4ax5ayAax6ayAax7ayAax8ax9aw50ax1ayAayBayCax2ax3auG001ax2a",
  "x3ax4ax5ax6ayAax7ayAayBax8ax9aw10ax1ayAax2ax3ax4ax5ax6ax7ax8ax9aw20ayAax1ax2ax3ax4ax5ax6ayAax7",
  "ax8ax9aw30ax1ax2ax3ax4ax5ax6ayAax7ayAax8ax9aw40ax1ax2ax3ayAax4ax5ayAax6ax7ax8ax9aw50ax1ax2ax3a",
  "x4auH001ax2ax3ax4ax5ax6ayAax7ax8auI001ax2ax3ax4ax5ayAax6ax7ax8ax9ayAaw10ayAax1ayAax2ax3ax4ax5a",
  "uK001ax2ax3ax4ax5ax6ax7ax8auL001ax2ayAax3ax4ax5ax6ayAax7ax8auM001ayAayBax2ax3ayAax4ax5ax6ax7ax",
  "8ax9aw10ayAax1ax2ayAayBayCayDayEayFayGayHax3ax4ax5ayAax6ayAax7ayAax8ax9aw20ax1ax2ayAax3ax4ayAa",
  "x5ax6ax7ax8ayAax9aw30ax1ayAax2ax3ayAayBax4ax5ax6ax7ax8ax9aw40ayAax1ax2ax3ax4auN001ax2ax3ax4ax5",
  "ax6ax7ax8ax9aw10ax1ax2ax3ax4ax5ax6ax7ax8ayAayBax9aw20ax1ax2ax3ax4ax5ayAax6ax7ax8ax9aw30ax1ax2a",
  "x3ayAax4ayAax5ayAax6ax7ayAax8ax9aw40ax1ax2avL001ay2ay3ay4ay5azAay6ay7ay8ay9ax10ay1ay2ay3ay4ay5",
  "ay6ay7azAay8ay9ax20avU001ay2ay3ay4ay5ay6ay7ay8ay9ax10azAay1azAay2ay3ay4ay5ay6ay7ay8azAay9ax20a",
  "y1ay2azAauO001ayAax2ax3ax4ax5ayAax6ayAayBayCayDayEayFax7ax8ax9aw10ayAayBayCax1ax2ax3ax4ax5ax6a",
  "x7ax8ax9ayAaw20ayAax1ax2ax3ax4ayAax5ayAax6ax7ax8ax9ayAaw30ayAax1ax2ax3ayAax4ax5ax6ayAayBayCayD",
  "ax7ax8ax9aw40ax1ax2ax3ax4ax5ax6ax7ax8ax9aw50ayAayBax1auP001ayAax2ax3ayAax4ax5ax6ax7ax8ax9aw10a",
  "x1auQ001ax2ax3ax4ax5ax6ax7auR001ax2ayAax3ayAayBax4ax5ax6ax7ax8ax9aw10ayAax1ax2ax3ax4ax5ax6ayAa",
  "x7ax8ax9aw20ax1ax2ax3ax4ax5ax6ax7ax8ax9auS001ax2ayAax3ax4ax5ax6ayAax7ax8ax9aw10ax1ax2ax3ax4ayA",
  "ayBax5ax6ax7ayAax8ax9aw20ax1ax2ax3ax4ax5ax6ayAayBax7ax8ax9aw30ax1ax2ax3ax4ax5ayAax6ax7ax8ax9aw",
  "40ax1ax2ax3ax4ax5ax6auT001ax2ax3ayAax4ax5ax6ax7ayAax8ayAax9ayAaw10ax1ayAax2ax3ax4ax5ax6ayAax7a",
  "x8ax9aw20ax1ax2ax3ax4ax5ax6ax7ax8ax9aw30ax1ax2ayAax3ayAax4ax5ax6auU001ax2ax3ax4ax5ax6ayAayBax7",
  "ax8ax9aw10ax1ax2ax3ax4ax5ax6ax7ax8ax9aw20ax1ax2ax3ayAax4ax5ax6ax7ax8ax9ayAaw30ax1ax2ayAax3ax4a",
  "x5ax6ax7ax8ax9aw40ax1ax2auV001ayAayBayCayDayEayFayGayHayIax2ayAax3ax4ax5ax6ax7ayAayBax8ax9aw10",
  "ax1ayAayBayCax2ayAayBax3ax4ax5ax6ax7ax8ax9aw20ayAayBayCayDayEayFayGayHayIayJayKayLax1ax2ax3ayA",
  "ax4ax5ax6ax7ax8ayAax9ayAaw30ayAax1ayAax2ax3ayAax4ax5ax6ax7ayAax8ax9aw40ayAauW001ax2ax3ayAax4ax",
  "5ax6ax7ax8ax9ayAaw10ayAax1ax2ax3ax4ayAax5ax6ax7ayAax8ayAax9aw20ax1ax2ax3ax4ayAax5auX001ax2ax3a",
  "x4ayAayBax5ax6ayAax7ax8ayAauY001ayAax2ax3ax4ax5ax6ax7ax8auZ001ax2ayAayBayCayDax3ayAayBax4ayAax",
  "5ayAax6ax7ax8ax9aw10ax1ax2ax3ax4ax5ayAayBayCayDayEayFayGayHayIax6ayAayBayCayDayEayFayGayHauAA0",
  "01ay2ay3ay4ay5ay6ay7azAazBay8ay9ax10ay1ay2ay3ay4ay5ay6ay7ay8ay9ax20ay1ay2ay3ay4ay5ay6ay7ay8ay9",
  "ax30ay1ay2@13430auVERTICAL JOINERauHORIZONTAL JOINERauINSERT AT TOP STARTbeBOTTOM STARTbeTOP E",
  "NDbeBOTTOM ENDauOVERLAY MIDDLEauBEGIN SEGMENTauEND SEGMENT@14400aaANATOLIAN HIEROGLYPH A001ay2",
  "ay3ay4ay5ay6ay7ay8ay9ax10azAay1ay2ay3ay4ay5ay6ay7ay8ay9ax20ay1ay2ay3ay4ay5ay6azAay7ay8ay9ax30a",
  "y1ay2ay3ay4ay5ay6ay7ay8ay9azAax40ay1azAay2ay3ay4ay5azAay6azAazBay7ay8ay9ax50ay1ay2ay3ay4ay5ay6",
  "ay7ay8ay9ax60ay1ay2ay3ay4ay5ay6azAazBazCay7ay8ay9ax70ay1ay2ay3ay4ay5ay6ay7ay8ay9ax80ay1ay2ay3a",
  "y4ay5ay6ay7ay8ay9ax90ay1ay2ay3ay4ay5ay6ay7azAay8azAay9aw100azAay1azAay2azAay3ay4azAazBazCay5az",
  "AazBay6ay7azAazBazCay8ay9ax10azAazBay1ay2ay3ay4ay5azAay6ay7ay8ay9ax20ay1ay2ay3ay4ay5azAay6ay7a",
  "y8ay9ax30ay1ay2ay3ay4ay5azAay6ay7ay8ay9ax40ay1ay2ay3ay4ay5ay6ay7ay8ay9ax50ay1ay2ay3ay4ay5ay6ay",
  "7ay8ay9ax60ay1ay2ay3ay4ay5ay6ay7ay8ay9ax70ay1ay2ay3ay4ay5ay6ay7ay8ay9ax80ay1ay2ay3ay4ay5ay6ay7",
  "ay8ay9ax90ay1ay2ay3ay4ay5ay6ay7ay8ay9aw200ay1ay2azAazBay3ay4ay5ay6ay7azAay8ay9azAax10ay1ay2ay3",
  "ay4ay5azAay6azAay7ay8ay9ax20ay1ay2ay3ay4ay5ay6ay7azAay8ay9ax30ay1ay2ay3ay4ay5ay6ay7ay8ay9ax40a",
  "y1ay2ay3ay4ay5ay6ay7ay8ay9ax50ay1ay2ay3ay4ay5ay6ay7ay8ay9ax60ay1ay2ay3ay4ay5ay6ay7azAay8ay9ax7",
  "0ay1ay2ay3ay4ay5ay6ay7ay8ay9ax80ay1ay2ay3ay4ay5ay6ay7ay8ay9azAax90ay1ay2ay3ay4azAay5ay6ay7ay8a",
  "y9azAaw300ay1ay2ay3ay4ay5ay6ay7ay8ay9azAax10ay1ay2ay3ay4ay5ay6ay7ay8ay9ax20ay1ay2ay3ay4ay5ay6a",
  "y7ay8ay9azAax30ay1ay2AazBazCay3ay4ay5ay6azAazBazCay7ay8ay9ax40ay1ay2ay3ay4ay5ay6ay7ay8ay9ax50a",
  "y1ay2ay3ay4ay5ay6ay7ay8ay9azAax60ay1ay2ay3ay4azAay5ay6ay7ay8azAay9ax70ay1azAay2ay3ay4ay5ay6ay7",
  "ay8ay9ax80ay1azAay2ay3 RA OR RIazAay4ay5ay6azAay7ay8ay9ax90ay1ay2ay3 EIGHTay4ay5ay6ay7ay8ay9aw",
  "400ay1ay2ay3ay4ay5ay6ay7ay8ay9ax10 BEGIN LOGOGRAM MARKazA END LOGOGRAM MARKay1ay2ay3ay4ay5ay6a",
  "y7ay8ay9ax20ay1ay2ay3ay4ay5ay6ay7ay8ay9ax30ay1ay2ay3ay4ay5ay6ay7ay8ay9ax40ay1ay2ay3ay4ay5ay6ay",
  "7ay8ay9ax50azAay1ay2ay3ay4ay5ay6ay7azAay8ay9ax60ay1ay2ay3ay4ay5ay6ay7ay8ay9ax70ay1ay2ay3ay4ay5",
  "ay6ay7ay8ay9ax80ay1ay2ay3ay4ay5ay6ay7ay8ay9ax90ay1ay2ay3ay4ay5ay6ay7aw501ay2ay3ay4ay5ay6ay7ay8",
  "ay9ax10ay1ay2ay3ay4ay5ay6ay7ay8ay9ax20ay1ay2ay3ay4ay5ay6ay7ay8ay9ax30@16800aaBAMUM LETTER PHAS",
  "E-A NGKUE MFONavGBIEE FONavPON MFON PIPAEMGBIEEbkBAavNAA MFONavSHUENSHUETavTITA MFONavNZA MFON",
  "avSHINDA PA NJIavPON PA NJI PIPAEMGBIEEbmBAavMAEMBGBIEEavTU MAEMBAavNGANGUavMAEMVEUXaxNSUAEawV",
  "EUAENGAMavSEUNYAMavNTOQPENavKEUKEUTNDAavNKINDIavSUUavNGKUENZEUMavLAPAQawET KUTavNTAP MFAAavMAE",
  "KEUPavPASHAEavGHEUAERAEavPAMSHAEavMON NGGEUAETavNZUN MEUTavU YUQ NAEavGHEUAEGHEUAEavNTAP NTAAa",
  "vSISAavMGBASAawEUNJOMNDEUQawOOMPUQavKAFAavPA LEERAEWAavNDA LEERAEWAavPETavMAEMKPENavNIKAavPUPa",
  "vTUAEPavLUAEPavSONJAMavTEUTEUWENavMAENYIavKETavNDAANGGEUAETavKUOQavMOOMEUTavSHUMavLOMMAEavFIRI",
  "avROMavKPOQavSOQavMAP PIEETavSHIRAEavNTAPavSHOQ NSHUT YUMavNYIT MONGKEUAEQavPAARAEavNKAARAEavU",
  "NKNOWNavNGGENavMAESIavNJAMavMBANYIavNYETavTEUAENavSOTavPAAMavNSHIEEavMAEMavNYIavKAQavNSHAavVEE",
  "avLUavNENawAQavMBAQatB NSHUETavTU MAEMGBIEEavSIEEawET TUavLOM NTEUMavMBA MAELEEavKIEEMavYEURAE",
  "avMBAARAEavKAMavPEESHIavYAFU LEERAEWAavLAM NSHUT NYAMavNTIEE SHEUOQawDU NJAAavGHEUGHEUAEMavPIT",
  "avTU NSIEEavSHET NJAQayUAEQTUavMFON TEUAEQawBIT MBAAKETavNYI NTEUMavKEUPUQavGHEUGHENavKEUYEUXa",
  "vLAANAEavPARUMavVEUMavNGKINDI MVOPaxGEU MBUavWUAETavSAKEUAEavTAAMavMEUQavNGGUOQbb LARGEavMFIYA",
  "QavSUEavMBEURIawONTIEENavNYAEMAEavPUNGAAMavMEUT NGGEETavFEUXavMBUOQavFEEavKEUAEMavMA NJEUAENAb",
  "aUQAavLETavNGGAAMawSENavMAavKIQavNGOMatC NGKUE MAEMBAawZAavYUMavWANGKUOQavNGGENawDEUAEREEawGKA",
  "QavGHARAEavMBEEKEETavGBAYIavNYIR MKPARAQ MEUNawTU MBITavMBEUMavPIRIEENavNDOMBUavMBAA CABBAGE-T",
  "REEavKEUSHEUAEPavGHAPavKEUKAQavYU MUOMAEavNZEUMavMBUEavNSEUAENavMBITavYEUQavKPARAQawAAavSEUXav",
  "NDIDAavTAASHAEavNJUEQavTITA YUEavSUAETavNGGUAEN NYAMavVEUXavNANSANAQavMA KEUAERIavNTAAawGGUONa",
  "vLAPavMBIRIEENawGBASAQavNTEUNGBAavTEUTEUXavNGGUMavFUEavNDEUTawSAaxHAQavBUNGavVEUAEPENavMBERAEa",
  "vRUavNJAEMavLAMavTITUAEPavNSUOT NGOMawJEEEEavKETavNGGUavMAESIawBUAEMavLUavKUTavNJAMawGOMavWUPa",
  "vNGGUEETawSOMawTENavKUOP NKAARAEavNSUNawDAMavMA NSIEEavYAAavNDAPavSHUEQawETFONavMBIawAEMBAawBA",
  "NYIavKEUSEUXavMBEUXavKEUMavMBAA PICKETavYUWOQavNJEUXavMIEEawUAEavSHIQavKEN LAWazFATIGUEavNGAQa",
  "wAQavLIQavPINawENavTETatD MBUOavWAPavNJIavMFONavNJIEEavLIEEavNJEUTawSHEEawGGAAMAEawYAMavWUAENa",
  "vNGKUNavSHEEavNGKAPavKEUAETMEUNavTEUTavSHEUAEavNJAPavSUEavKETavYAEMMAEavKUOMavSAPavMFEUTavNDEU",
  "XavMALEERIawEUTavSEUAEQavYENavNJEUAEMavKEUOT MBUAEavNGKEURIavTUavGHAAavNGKYEEavFEUFEUAETavNDEE",
  "avMGBOFUMavLEUAEPavNDONavMONIawGBEUNavPUUTavMGBIEEawFOavLUMavNSIEEPavMBAAavKWAETavNYETavTEUAEN",
  "avSOTavYUWOQavKEUMavRAEMavTEEEEavNGKEUAEQavMFEUAEavNSIEETavKEUPavPIPawEUTAEavNYUEavLETavNGGAAM",
  "avMFIEEavNGGWAENavYUOMavPAPavYUOPavNDAMawTEUMavSUAEavKUNavNGGEUXaxKIEEavTUOTavMEUNavKUQavNSUMa",
  "vTEUNavMAENJETavNGGAPavLEUMavNGGUOMawSHUTawJUEQavGHEUAEavKUavREN OLDavTAEawOQavNYIavRIIavLEEEE",
  "avMEEEEawavSUUavMUavSHIIaxEUXavKYEEavNUavSHUavNTEEavPEEavNIavSHOQavPUQavMVOPavLOQavREN MUCHavT",
  "IavNTUUavMBAA SEVENavSAQavFAAatE NDAPavTOONavMBEUMavLAPavVOMavLOONavPAAavSOMavRAQavNSHUOPawDUN",
  "avPUAEavTAMavNGKAavKPEUXavWUOavSEEavNGGEUAETavPAAMavTOOavKUOPavLOMavNSHIEEawGOPavMAEMavNGKEUXa",
  "xOQawSHUEavRIMGBAavNJEUXavPEEMavSAAavNGGURAEavMGBAavGHEUXavNGKEUAEMawJAEMLIavMAPavLOOTavNGGEEE",
  "EawDIQavTAEN NTEUMavSETavPUMavNDAA SOFTNESSawGGUAESHAE NYAMavYIEEavGHEUNavTUAEavYEUAEavPOavTUM",
  "AEavKEUAEavSUAENavTEUAEQavVEUAEavWEUXavLAAMavPUavTAAQavGHAAMAEavNGEUREUTavSHEUAEQavMGBENawBEEa",
  "vNZAQawKOMavGBETavTUMavKUETavYAPavNYI CLEAVERavYITavMFEUQavNDIAQavPIEEQavYUEQavLEUAEMavFUEavGB",
  "EUXavNGKUPavKETavMAEavNGKAAMIavGHETavFAavNTUMavPEUTavYEUMavNGGEUAEawYI BETWEENawZUQavPOONavMIE",
  "EavFUETavNAEavMUAEavGHEUAEavFU IavMVIavPUAQavNGKUMavKUTavPIETavNTAPavYEUAETavNGGUPavPA PEOPLEa",
  "vFU CALLawOMavNJEEavAavTOQavOavIavLAQavPA PLURALavTAAaxQavNDAA MY HOUSEavSHIQavYEUXavNGUAEavYU",
  "AENawOQ SWIMMINGazCOVERawUQaxNavKEUXavPEUXavNJEE EPOCHavPUEavWUEavFEEavVEEavLUavMIavREUXawAEav",
  "NGUAETaxAavSHOayQavFU REMEDYavNAavPIavLOQavKOavMENawAaxQavTEUavKIavMONavTENavFAQavGHOMatF KAav",
  "UavKUavEEavREEavTAEavNYIavLAavRIIaxEEavMEEEEavTAAavNDAAawJAEMavMavSUUawHIIawIawEUXavKYEEawETav",
  "NUAEaxawJUAEavYOQavSHUavYAavNSHAavPEUXavNTEEavWUEavPEEavRUavNIavREUXavKENavNGKWAENaxGAavSHOavP",
  "UAEavFOMavWAavLIawOQavKOavMBENavRENavMAawOawBAAavTETavKPAavSAMBAavVUEQ@16A40aaMRO LETTER TAalN",
  "GIalYOalMIMalBAalDAalAalPHIalKHAIalHAOalDAIalCHUalKEAAEalOLalMAEMalNINalPAalOOamalROalSHIalTHE",
  "AalEAalWAalEalKOalLANanalHAIalRIalTEK@16A60aeDIGIT ZEROakONEakTWOalHREEakFOURalIVEakSIXalEVENa",
  "kEIGHTakNINE@16A6EafANDAafOUBLE DANDAaaTANGSA LETTER OZapCapQapXaoAZapCapQapXaoVZapCapQapXaoEZ",
  "apCapQapXaoIZapCapQapXaoUZapCapQapXaoAWZaqCaqQaqXaoUIZaqCaqQaqXaoFINAL NGaoLONG UEXaoSHORT UEZ",
  "auAWXaoUECaqZaqQaqXapIUZarCarQarXaoMZapCapQapXaoKAapHAaoGAaoNGAaoSAaoYAaoWAaoPAaoNYAaoPHAaoBAa",
  "oMAaoNAaoHAaoLAaoHTAaoTAaoDAaoRAaoNHAaoSHAaoCAaoTSAaoGHAaoHTTAaoTHAaoXAaoFAaoDHAaoCHAaoZA@16AC",
  "0ahDIGIT ZEROanONEanTWOaoHREEanFOURaoIVEanSIXaoEVENanEIGHTanNINE@16AD0aaBASSA VAH LETTER ENNIa",
  "rKAarSEarFAarMBEarYIEarGAHarDHIIarKPAHarJOarHWAHarWAarZOarGBUarDOarCEarUWUarTOarBAarVUarYEINar",
  "PAarWADDAarAarOasOarUarEEasarI@16AF0akCOMBINING HIGH TONEauLOW TONEauMID TONEauLOW-MID TONEauH",
  "IGH-LOW TONEakFULL STOP@16B00aaPAHAWH HMONG VOWEL KEEBawVauIBavVauAUBawVauUBavVauEBavVauAIBawV",
  "auOOBawVauAWBawVauUABawVauOBavVauIABawVauABavVauWBavVauAABawVanCONSONANT VAUaxNTSAUaxLAUaxHAUa",
  "xNLAUaxRAUaxNKAUaxQHAUaxYAUaxHLAUaxMAUaxCHAUaxNCHAUaxHNAUaxPLHAUaxNTHAUayAUaxAUaxXAUaxCAUanMAR",
  "K CIM TUBawSOawKESaxHAVawSUAMawHOMawTAUManSIGN VOS THOMaxSHAB CEEBasCIM CHEEMasVOS THIABawFEEM",
  "asXYEEM NTXIVayRHOayTOVayFAIBasVOS SEEVasMEEJ SUABasVOS NRUAasIB YAMasXAUSasCIM TSOV ROG@16B50",
  "anDIGIT ZEROatONEatTWOauHREEatFOURauIVEatSIXauEVENatEIGHTatNINE@16B5BanNUMBER TENSauHUNDREDSau",
  "TEN THOUSANDSauMILLIONSauHUNDRED MILLIONSauTEN BILLIONSavRILLIONS@16B63anSIGN VOS LUBasXYOOasH",
  "LIasTHIRD-STAGE HLIasZWJ THAJasHNUBasNQIGasXIABasNTUJasAVasTXHEEJ CEEVasMEEJ TSEEBasTAUasLOSas",
  "MUSasCIM HAIS LUS NTOG NTOGawCUAM TSHOOJawTXWVba CHWVawPUB DAWBawNRES TOS@16B7DanCLAN SIGN TSH",
  "EEJaxYEEGaxLISayAUJaxXYOOJaxKOOaxHAWJaxMUASaxTHOJaySABaxPHABaxKHABaxHAMaxVAJaxFAJaxYAJaxTSWBax",
  "KWMaxVWJ@16E40aaMEDEFAIDRIN CAPITAL LETTER MbbSbbVbbWbbATIUbbZbbKPbbPbbTbbGbbFbbIbbKbbAbbJbbEb",
  "bBbbCbbUbbYUbbLbbQbbHPbbNYbbXbbDbbOEbbNbbRbbObbAIbbYamSMALL LETTER MazSazVazWazATIUazZazKPazPa",
  "zTazGazFazIazKazAazJazEazBazCazUazYUazLazQazHPazNYazXazDazOEazNazRazOazAIazYamDIGIT ZEROasONEa",
  "sTWOatHREEasFOURatIVEasSIXatEVENasEIGHTasNINEamNUMBER TENatELEVENatTWELVEauHIRTEENatFOURTEENau",
  "IFTEENatSIXTEENauEVENTEENatEIGHTEENatNINETEENamDIGIT ONE ALTERNATE FORMasTWO ALTERNATE FORMatH",
  "REE ALTERNATE FORMamCOMMAamFULL STOPamSYMBOL AIVAamEXCLAMATION OH@16F00abIAO LETTER PAamBAamYI",
  " PAamPLAamMAanHAamARCHAIC MAamFAamVAanFAamTAamDAamYI TTAaqAamTTAamDDAamNAanHAamYI NNAamARCHAIC",
  " NAamNNAaoHAamLAanYAanHAaoYAamTLHAamDLHAamTLHYAamDLHYAamKAamGAamYI KAamQAanGAamNGAaoHAamARCHAI",
  "C NGAamHAamXAamGHAaoHAamTSSAamDZZAamNYAaoHAamTSHAamDZHAamYI TSHAapDZHAamREFORMED TSHAamSHAanSA",
  "amZHAanSHAamTSAamDZAamYI TSAamSAamZAanSAanZAaoSAamARCHAIC ZZAamZZYAaoSYAamWAamAHamHHAamBRIamSY",
  "IamDZYIamTEanSEamRTE@16F4FafSIGN CONSONANT MODIFIER BARafLETTER NASALIZATIONafSIGN ASPIRATIONa",
  "kREFORMED VOICINGatASPIRATIONafVOWEL SIGN AarAarHHarNasGaqOarOaqWOaraqEarNasGaqOEYaqIarAasNatG",
  "arOarEarIarUarNGaqUarAasNatGarUarEIarNGaqYarIaqAEasEaqERRaqROUNDED ERRaqERaqROUNDED ERaqAIaqEI",
  "aqAUaqOUaqNarGaqUOGaqYUIaqOGarERaqVWaqIGaqEAaqIONGaqUI@16F8FafTONE RIGHTakTOP RIGHTakABOVEakBE",
  "LOWafLETTER TONE-2ar3ar4ar5ar6ar7ar8amREFORMED TONE-1ba2ba4ba5ba6ba8@16FE0aaTANGUT ITERATION M",
  "ARKaaNUSHU ITERATION MARKaaOLD CHINESE HOOK MARKamITERATION MARKaaKHITAN SMALL SCRIPT FILLER@1",
  "6FF0aaVIETNAMESE ALTERNATE READING MARK CAbiNHAY@18800aaTANGUT COMPONENT-001at2at3at4at5at6at7",
  "at8at9as10at1at2at3at4at5at6at7at8at9as20at1at2at3at4at5at6at7at8at9as30at1at2at3at4at5at6at7a",
  "t8at9as40at1at2at3at4at5at6at7at8at9as50at1at2at3at4at5at6at7at8at9as60at1at2at3at4at5at6at7at",
  "8at9as70at1at2at3at4at5at6at7at8at9as80at1at2at3at4at5at6at7at8at9as90at1at2at3at4at5at6at7at8",
  "at9ar100at1at2at3at4at5at6at7at8at9as10at1at2at3at4at5at6at7at8at9as20at1at2at3at4at5at6at7at8",
  "at9as30at1at2at3at4at5at6at7at8at9as40at1at2at3at4at5at6at7at8at9as50at1at2at3at4at5at6at7at8a",
  "t9as60at1at2at3at4at5at6at7at8at9as70at1at2at3at4at5at6at7at8at9as80at1at2at3at4at5at6at7at8at",
  "9as90at1at2at3at4at5at6at7at8at9ar200at1at2at3at4at5at6at7at8at9as10at1at2at3at4at5at6at7at8at",
  "9as20at1at2at3at4at5at6at7at8at9as30at1at2at3at4at5at6at7at8at9as40at1at2at3at4at5at6at7at8at9",
  "as50at1at2at3at4at5at6at7at8at9as60at1at2at3at4at5at6at7at8at9as70at1at2at3at4at5at6at7at8at9a",
  "s80at1at2at3at4at5at6at7at8at9as90at1at2at3at4at5at6at7at8at9ar300at1at2at3at4at5at6at7at8at9a",
  "s10at1at2at3at4at5at6at7at8at9as20at1at2at3at4at5at6at7at8at9as30at1at2at3at4at5at6at7at8at9as",
  "40at1at2at3at4at5at6at7at8at9as50at1at2at3at4at5at6at7at8at9as60at1at2at3at4at5at6at7at8at9as7",
  "0at1at2at3at4at5at6at7at8at9as80at1at2at3at4at5at6at7at8at9as90at1at2at3at4at5at6at7at8at9ar40",
  "0at1at2at3at4at5at6at7at8at9as10at1at2at3at4at5at6at7at8at9as20at1at2at3at4at5at6at7at8at9as30",
  "at1at2at3at4at5at6at7at8at9as40at1at2at3at4at5at6at7at8at9as50at1at2at3at4at5at6at7at8at9as60a",
  "t1at2at3at4at5at6at7at8at9as70at1at2at3at4at5at6at7at8at9as80at1at2at3at4at5at6at7at8at9as90at",
  "1at2at3at4at5at6at7at8at9ar500at1at2at3at4at5at6at7at8at9as10at1at2at3at4at5at6at7at8at9as20at",
  "1at2at3at4at5at6at7at8at9as30at1at2at3at4at5at6at7at8at9as40at1at2at3at4at5at6at7at8at9as50at1",
  "at2at3at4at5at6at7at8at9as60at1at2at3at4at5at6at7at8at9as70at1at2at3at4at5at6at7at8at9as80at1a",
  "t2at3at4at5at6at7at8at9as90at1at2at3at4at5at6at7at8at9ar600at1at2at3at4at5at6at7at8at9as10at1a",
  "t2at3at4at5at6at7at8at9as20at1at2at3at4at5at6at7at8at9as30at1at2at3at4at5at6at7at8at9as40at1at",
  "2at3at4at5at6at7at8at9as50at1at2at3at4at5at6at7at8at9as60at1at2at3at4at5at6at7at8at9as70at1at2",
  "at3at4at5at6at7at8at9as80at1at2at3at4at5at6at7at8at9as90at1at2at3at4at5at6at7at8at9ar700at1at2",
  "at3at4at5at6at7at8at9as10at1at2at3at4at5at6at7at8at9as20at1at2at3at4at5at6at7at8at9as30at1at2a",
  "t3at4at5at6at7at8at9as40at1at2at3at4at5at6at7at8at9as50at1at2at3at4at5at6at7at8at9as60at1at2at",
  "3at4at5at6at7at8aaKHITAN SMALL SCRIPT CHARACTER-18B00bi1bi2bi3bi4bi5bi6bi7bi8bi9biAbiBbiCbiDbi",
  "EbiFbh10bi1bi2bi3bi4bi5bi6bi7bi8bi9biAbiBbiCbiDbiEbiFbh20bi1bi2bi3bi4bi5bi6bi7bi8bi9biAbiBbiCb",
  "iDbiEbiFbh30bi1bi2bi3bi4bi5bi6bi7bi8bi9biAbiBbiCbiDbiEbiFbh40bi1bi2bi3bi4bi5bi6bi7bi8bi9biAbiB",
  "biCbiDbiEbiFbh50bi1bi2bi3bi4bi5bi6bi7bi8bi9biAbiBbiCbiDbiEbiFbh60bi1bi2bi3bi4bi5bi6bi7bi8bi9bi",
  "AbiBbiCbiDbiEbiFbh70bi1bi2bi3bi4bi5bi6bi7bi8bi9biAbiBbiCbiDbiEbiFbh80bi1bi2bi3bi4bi5bi6bi7bi8b",
  "i9biAbiBbiCbiDbiEbiFbh90bi1bi2bi3bi4bi5bi6bi7bi8bi9biAbiBbiCbiDbiEbiFbhA0bi1bi2bi3bi4bi5bi6bi7",
  "bi8bi9biAbiBbiCbiDbiEbiFbhB0bi1bi2bi3bi4bi5bi6bi7bi8bi9biAbiBbiCbiDbiEbiFbhC0bi1bi2bi3bi4bi5bi",
  "6bi7bi8bi9biAbiBbiCbiDbiEbiFbhD0bi1bi2bi3bi4bi5bi6bi7bi8bi9biAbiBbiCbiDbiEbiFbhE0bi1bi2bi3bi4b",
  "i5bi6bi7bi8bi9biAbiBbiCbiDbiEbiFbhF0bi1bi2bi3bi4bi5bi6bi7bi8bi9biAbiBbiCbiDbiEbiFbgC00bi1bi2bi",
  "3bi4bi5bi6bi7bi8bi9biAbiBbiCbiDbiEbiFbh10bi1bi2bi3bi4bi5bi6bi7bi8bi9biAbiBbiCbiDbiEbiFbh20bi1b",
  "i2bi3bi4bi5bi6bi7bi8bi9biAbiBbiCbiDbiEbiFbh30bi1bi2bi3bi4bi5bi6bi7bi8bi9biAbiBbiCbiDbiEbiFbh40",
  "bi1bi2bi3bi4bi5bi6bi7bi8bi9biAbiBbiCbiDbiEbiFbh50bi1bi2bi3bi4bi5bi6bi7bi8bi9biAbiBbiCbiDbiEbiF",
  "bh60bi1bi2bi3bi4bi5bi6bi7bi8bi9biAbiBbiCbiDbiEbiFbh70bi1bi2bi3bi4bi5bi6bi7bi8bi9biAbiBbiCbiDbi",
  "EbiFbh80bi1bi2bi3bi4bi5bi6bi7bi8bi9biAbiBbiCbiDbiEbiFbh90bi1bi2bi3bi4bi5bi6bi7bi8bi9biAbiBbiCb",
  "iDbiEbiFbhA0bi1bi2bi3bi4bi5bi6bi7bi8bi9biAbiBbiCbiDbiEbiFbhB0bi1bi2bi3bi4bi5bi6bi7bi8bi9biAbiB",
  "biCbiDbiEbiFbhC0bi1bi2bi3bi4bi5bi6bi7bi8bi9biAbiBbiCbiDbiEbiFbhD0bi1bi2bi3bi4bi5@1AFF0abATAKAN",
  "A LETTER MINNAN TONE-2bc3bc4bc5@1AFF5bc7bc8axNASALIZED TONE-1bm2bm3bm4bm5@1AFFDbm7bm8"]

end EntityGen.Text.CharName
