/-!
# Names of characters: symbols

The names of musical and mathematical symbols, emoji and the characters behind them (Unicode 14), in the form that `CharacterName` reads.
-/

namespace Assay.Text

/-- The names of musical and mathematical symbols, emoji and the characters behind them. -/
def symbolNames : String :=
  "=1D000aBYZANTINE_MUSICAL_SYMBOL_PSILIzDASEIAzPERISPOMENIzOXEIA_EKFONITIKONzgDIPLIzVAREIA_EKFON
    ITIKONzhDIPLIzKATHISTIzSYRMATIKIzPARAKLITIKIzYPOKRISISzj_DIPLIzKREMASTIzAPESO_EKFONITIKONzEXO_
    EKFONITIKONzTELEIAzKENTIMATAzAPOSTROFOSzk_DIPLIzSYNEVMAzTHITAzOLIGON_ARCHAIONzGORGON_ARCHAIONz
    PSILONzCHAMILONzVATHYzISON_ARCHAIONzKENTIMA_ARCHAIONzhTA_ARCHAIONzSAXIMATAzPARICHONzSTAVROS_AP
    ODEXIAzOXEIAI_ARCHAIONzVAREIAI_ARCHAIONzAPODERMA_ARCHAIONzdTHEMAzKLASMAzREVMAzPIASMA_ARCHAIONz
    TINAGMAzANATRICHISMAzSEISMAzbYNAGMA_ARCHAIONziMETA_STAVROUzOYRANISMA_ARCHAIONzTHEMAzLEMOIzDYOz
    TRIAzbESSERAzKRATIMATAzAPESO_EXO_NEOzFTHORA_ARCHAIONzIMIFTHORAzTROMIKON_ARCHAIONzKATAVA_TROMIK
    ONzPELASTONzbSIFISTONzKONTEVMAzCHOREVMA_ARCHAIONzRAPISMAzPARAKALESMA_ARCHAIONzfLITIKI_ARCHAION
    zICHADINzNANAzPETASMAzKONTEVMA_ALLOzTROMIKON_ALLOzSTRAGGISMATAzGRONTHISMATAzISON_NEOzOLIGON_NE
    OzbXEIA_NEOzPETASTIzKOUFISMAzPETASTOKOUFISMAzKRATIMOKOUFISMAzPELASTON_NEOzKENTIMATA_NEO_ANOzh_
    NEO_ANOzYPSILIzAPOSTROFOS_NEOzjI_SYNDESMOS_NEOzYPORROIzKRATIMOYPORROONzELAFRONzCHAMILIzMIKRON_
    ISONzVAREIA_NEOzPIASMA_NEOzbSIFISTON_NEOzOMALONzANTIKENOMAzLYGISMAzPARAKLITIKI_NEOzfALESMA_NEO
    zETERON_PARAKALESMAzKYLISMAzANTIKENOKYLISMAzTROMIKON_NEOzEKSTREPTONzSYNAGMA_NEOzcRMAzCHOREVMA_
    NEOzEPEGERMAzSEISMA_NEOzXIRON_KLASMAzTROMIKOPSIFISTONzPSIFISTOLYGISMAzTROMIKOLYGISMAzhPARAKALE
    SMAzPSIFISTOPARAKALESMAzTROMIKOSYNAGMAzPSIFISTOSYNAGMAzGORGOSYNTHETONzARGOSYNTHETONzETERON_ARG
    OSYNTHETONzOYRANISMA_NEOzTHEMATISMOS_ESOznXOzf_APLOUNzdS_KAI_APOTHESzKATAVASMAzENDOFONONzYFEN_
    KATOzfANOzSTAVROSzKLASMA_ANOzDIPLI_ARCHAIONzKRATIMA_ARCHAIONzjLLOziNEOzAPODERMA_NEOzcLIzDIPLIz
    TRIPLIzbETRAPLIzKORONISzLEIMMA_ENOS_CHRONOUzhDYO_CHRONONzhTRION_CHRONONziESSARON_CHRONONzhIMIS
    EOS_CHRONOUzGORGON_NEO_ANOzhPARESTIGMENON_ARISTERAzvDEXIAzDIGORGONzi_PARESTIGMENON_ARISTERA_KA
    TOzzhANOzxDEXIAzTRIGORGONzARGONzIMIDIARGONzDIARGONzAGOGI_POLI_ARGIzgARGOTERIzjIzgMETRIAziSIzgG
    ORGIzkOTERIzgPOLI_GORGIzMARTYRIA_PROTOS_ICHOSzjALLI_PROTOS_ICHOSzjDEYTEROS_ICHOSzjALLI_DEYTERO
    S_ICHOSzjTRITOS_ICHOSzmFONIASzkETARTOS_ICHOSzsLEGETOS_ICHOSzjLEGETOS_ICHOSzjPLAGIOS_ICHOSzISAK
    IA_TELOUS_ICHIMATOSzAPOSTROFOI_TELOUS_ICHIMATOSzFANEROSIS_TETRAFONIASzkMONOFONIASzkDIFONIASzMA
    RTYRIA_VARYS_ICHOSzjPROTOVARYS_ICHOSzkLAGIOS_TETARTOS_ICHOSzGORTHMIKON_N_APLOUNznDIPLOUNzENARX
    IS_KAI_FTHORA_VOUzIMIFONONzeTHORONzFTHORA_ARCHAION_DEYTEROU_ICHOUzhDIATONIKI_PAzrNANAzhNAOS_IC
    HOSzhDIATONIKI_DIzhSKLIRON_DIATONON_DIzhDIATONIKI_KEzrZOzrNI_KATOzuANOzhMALAKON_CHROMA_DIFONIA
    SzwMONOFONIASzbHTORA_SKLIRON_CHROMA_VASISzbTHORA_SKLIRON_CHROMA_SYNAFIzhNENANOzCHROA_ZYGOSzgKL
    ITONzgSPATHIzFTHORA_I_YFESIS_TETARTIMORIONzhENARMONIOS_ANTIFONIAzYFESIS_TRITIMORIONzDIESIS_TRI
    TIMORIONziETARTIMORIONzhAPLI_DYO_DODEKATAzhMONOGRAMMOS_TESSERA_DODEKATAzhDIGRAMMOS_EX_DODEKATA
    zhTRIGRAMMOS_OKTO_DODEKATAzYFESIS_APLI_DYO_DODEKATAzhMONOGRAMMOS_TESSERA_DODEKATAzhDIGRAMMOS_E
    X_DODEKATAzhTRIGRAMMOS_OKTO_DODEKATAzGENIKI_DIESISzhYFESISzDIASTOLI_APLI_MIKRIzpEGALIzjDIPLIzj
    THESEOSzSIMANSIS_THESEOSzq_DISIMOUzrTRISIMOUzsETRASIMOUzjARSEOSzp_DISIMOUzqTRISIMOUzrETRASIMOU
    zDIGRAMMA_GGzcFTOGGOS_OUzSTIGMAzARKTIKO_PAziVOUziGAziDIziKEziZOziNIzKENTIMATA_NEO_MESOzh_NEO_M
    ESOzhTA_NEO_KATOzh_NEO_KATOzbLASMA_KATOzGORGON_NEO_KATO=1D100aMUSICAL_SYMBOL_SINGLE_BARLINEpDO
    UBLE_BARLINEpFINAL_BARLINEpREVERSE_FINAL_BARLINEpDASHED_BARLINEpSHORT_BARLINEpLEFT_REPEAT_SIGN
    pRIGHT_REPEAT_SIGNqEPEAT_DOTSpDAL_SEGNOr_CAPOpSEGNOpCODApREPEATED_FIGURE-1zg2zg3pFERMATAw_BELO
    WpBREATH_MARKpCAESURApBRACEtKETpONE-LINE_STAFFpTWO-LINE_STAFFqHREE-LINE_STAFFpFOUR-LINE_STAFFq
    IVE-LINE_STAFFpSIX-LINE_STAFFtSTRING_FRETBOARDpFOUR-STRING_FRETBOARDpG_CLEFv_OTTAVA_ALTAzeBASS
    ApC_CLEFpF_CLEFv_OTTAVA_ALTAzeBASSApDRUM_CLEF-1z2=1D129pMULTIPLE_MEASURE_RESTpDOUBLE_SHARPwFLA
    TpFLAT_UPuDOWNpNATURAL_UPxDOWNpSHARP_UPvDOWNpQUARTER_TONE_SHARPzdFLATpCOMMON_TIMEqUT_TIMEpOTTA
    VA_ALTAwBASSApQUINDICESIMA_ALTAzdBASSApMULTI_RESTpWHOLE_RESTpHALF_RESTpQUARTER_RESTpEIGHTH_RES
    TpSIXTEENTH_RESTpTHIRTY-SECOND_RESTpSIXTY-FOURTH_RESTpONE_HUNDRED_TWENTY-EIGHTH_RESTpX_NOTEHEA
    DpPLUS_NOTEHEADpCIRCLE_X_NOTEHEADpSQUARE_NOTEHEAD_WHITEzgBLACKpTRIANGLE_NOTEHEAD_UP_WHITEzlBLA
    CKziLEFT_WHITEznBLACKziRIGHT_WHITEzoBLACKziDOWN_WHITEznBLACKziUP_RIGHT_WHITEzrBLACKpMOON_NOTEH
    EAD_WHITEzeBLACKpTRIANGLE-ROUND_NOTEHEAD_DOWN_WHITEztBLACKpPARENTHESIS_NOTEHEADpVOID_NOTEHEADp
    NOTEHEAD_BLACKqULL_NOTEHEADpCLUSTER_NOTEHEAD_WHITEzhBLACKpBREVEpWHOLE_NOTEpHALF_NOTEpQUARTER_N
    OTEpEIGHTH_NOTEpSIXTEENTH_NOTEpTHIRTY-SECOND_NOTEpSIXTY-FOURTH_NOTEpONE_HUNDRED_TWENTY-EIGHTH_
    NOTEpCOMBINING_STEMzbPRECHGESANG_STEMzTREMOLO-1zi2zi3pFINGERED_TREMOLO-1zh2zh3pCOMBINING_AUGME
    NTATION_DOTzFLAG-1zf2zf3zf4zf5pBEGIN_BEAMpEND_BEAMpBEGIN_TIEpEND_TIEpBEGIN_SLURpEND_SLURpBEGIN
    _PHRASEpEND_PHRASEpCOMBINING_ACCENTzSTACCATOzTENUTOzSTACCATISSIMOzMARCATOzh-STACCATOzACCENT-ST
    ACCATOzLOUREpARPEGGIATO_UPzbDOWNpCOMBINING_DOITzRIPzFLIPzSMEARzBENDzDOUBLE_TONGUEzTRIPLE_TONGU
    EpRINFORZANDOpSUBITOpZpPIANOpMEZZOpFORTEpCRESCENDOpDECRESCENDOpGRACE_NOTE_SLASHzbNO_SLASHpTRqU
    RNpINVERTED_TURNpTURN_SLASHuUPpORNAMENT_STROKE-1zg2zg3zg4zg5zg6zg7zg8zg9zg10zh1pHAUPTSTIMMEpNE
    BENSTIMMEpEND_OF_STIMMEpDEGREE_SLASHpCOMBINING_DOWN_BOWzUP_BOWzHARMONICzSNAP_PIZZICATOpPEDAL_M
    ARKvUP_MARKpHALF_PEDAL_MARKpGLISSANDO_UPzDOWNpWITH_FINGERNAILSpDAMPt_ALLpMAXIMApLONGApBREVISpS
    EMIBREVIS_WHITEzbBLACKpMINIMAv_BLACKpSEMIMINIMA_WHITEzbBLACKpFUSA_WHITEuBLACKpLONGA_PERFECTA_R
    ESTvIMPERFECTA_RESTpBREVIS_RESTpSEMIBREVIS_RESTpMINIMA_RESTpSEMIMINIMA_RESTpTEMPUS_PERFECTUM_C
    UM_PROLATIONE_PERFECTAzwIMPERFECTAzwPERFECTA_DIMINUTION-1wIMPERFECTUM_CUM_PROLATIONE_PERFECTAz
    yIMPERFECTAzzj_DIMINUTION-1zzv2zzv3pCROIXpGREGORIAN_C_CLEFzF_CLEFpSQUARE_BpVIRGApPODATUSpCLIVI
    SpSCANDICUSpCLIMACUSpTORCULUSpPORRECTUSy_FLEXUSpSCANDICUS_FLEXUSpTORCULUS_RESUPINUSpPES_SUBPUN
    CTISpKIEVAN_C_CLEFwEND_OF_PIECEwFINAL_NOTEwRECITATIVE_MARKwWHOLE_NOTEwHALF_NOTEwQUARTER_NOTE_S
    TEM_DOWNzpUPwEIGHTH_NOTE_STEM_DOWNzoUPwFLAT_SIGNpSORIpKORON=1D200aGREEK_VOCAL_NOTATION_SYMBOL-
    1zd2zd3zd4zd5zd6zd7zd8zd9zd10ze1ze2ze3ze4ze5ze6ze7ze8ze9zd20ze1ze2ze3ze4zd50ze1ze2ze3ze4gINSTR
    UMENTAL_NOTATION_SYMBOL-1zk2zk4zk5zk7zk8zk11zl2zl3zl4zl7zl8zl9zk23zl4zl5zl6zl7zl9zk30zl2zl6zl7
    zl8zl9zk40zl2zl3zl5zl7zl8zl9zk50zl1zl2zl3zl4aCOMBINING_GREEK_MUSICAL_TRISEMEzETRASEMEyPENTASEM
    EaGREEK_MUSICAL_LEIMMA=1D2E0aMAYAN_NUMERAL_ZEROoONEoTWOpHREEoFOURpIVEoSIXpEVENoEIGHToNINEoTENo
    ELEVENoTWELVEpHIRTEENoFOURTEENpIFTEENoSIXTEENpEVENTEENoEIGHTEENoNINETEEN=1D300bONOGRAM_FOR_EAR
    THaDIGRAM_FOR_HEAVENLY_EARTHmUMAN_EARTHlEARTHLY_HEAVENuUMANpHaTETRAGRAM_FOR_CENTREoFULL_CIRCLE
    oMIREDoBARRIERoKEEPING_SMALLoCONTRARIETYoASCENToOPPOSITIONoBRANCHING_OUToDEFECTIVENESS_OR_DIST
    ORTIONpIVERGENCEoYOUTHFULNESSoINCREASEoPENETRATIONoREACHoCONTACToHOLDING_BACKoWAITINGoFOLLOWIN
    GoADVANCEoRELEASEqSISTANCEoEASEoJOYoCONTENTIONoENDEAVOURoDUTIESoCHANGEoDECISIVENESSoBOLD_RESOL
    UTIONoPACKINGoLEGIONoCLOSENESSoKINSHIPoGATHERINGoSTRENGTHoPURITYoFULLNESSoRESIDENCEoLAW_OR_MOD
    ELoRESPONSEoGOING_TO_MEEToENCOUNTERSoSTOVEoGREATNESSoENLARGEMENToPATTERNoRITUALoFLIGHToVASTNES
    S_OR_WASTINGoCONSTANCYoMEASUREoETERNITYoUNITYoDIMINISHMENToCLOSED_MOUTHoGUARDEDNESSpATHERING_I
    NoMASSINGoACCUMULATIONoEMBELLISHMENToDOUBToWATCHoSINKINGoINNERoDEPARTUREpARKENINGpIMMINGoEXHAU
    STIONoSEVERANCEpTOPPAGEoHARDNESSoCOMPLETIONpLOSUREoFAILUREoAGGRAVATIONoCOMPLIANCEoON_THE_VERGE
    oDIFFICULTIESoLABOURINGoFOSTERING=1D360aCOUNTING_ROD_UNIT_DIGIT_ONEyTWOzHREEyFOURzIVEySIXzEVEN
    yEIGHTyNINEnTENS_DIGIT_ONEyTWOzHREEyFOURzIVEySIXzEVENyEIGHTyNINEaIDEOGRAPHIC_TALLY_MARK_ONExTW
    OyHREExFOURyIVEaTALLY_MARK_ONElFIVE=1D400aMATHEMATICAL_BOLD_CAPITAL_AzbBzbCzbDzbEzbFzbGzbHzbIz
    bJzbKzbLzbMzbNzbOzbPzbQzbRzbSzbTzbUzbVzbWzbXzbYzbZsSMALL_AyByCyDyEyFyGyHyIyJyKyLyMyNyOyPyQyRyS
    yTyUyVyWyXyYyZnITALIC_CAPITAL_AzdBzdCzdDzdEzdFzdGzdHzdIzdJzdKzdLzdMzdNzdOzdPzdQzdRzdSzdTzdUzdV
    zdWzdXzdYzdZuSMALL_AzbBzbCzbDzbEzbFzbG=1D456zbIzbJzbKzbLzbMzbNzbOzbPzbQzbRzbSzbTzbUzbVzbWzbXzb
    YzbZnBOLD_ITALIC_CAPITAL_AziBziCziDziEziFziGziHziIziJziKziLziMziNziOziPziQziRziSziTziUziVziWzi
    XziYziZzSMALL_AzgBzgCzgDzgEzgFzgGzgHzgIzgJzgKzgLzgMzgNzgOzgPzgQzgRzgSzgTzgUzgVzgWzgXzgYzgZnSCR
    IPT_CAPITAL_A=1D49EzdCzdD=1D4A2zdG=1D4A5zdJzdK=1D4A9zdNzdOzdPzdQ=1D4AEzdSzdTzdUzdVzdWzdXzdYzdZ
    uSMALL_AzbBzbCzbD=1D4BBzbF=1D4BDzbHzbIzbJzbKzbLzbMzbN=1D4C5zbPzbQzbRzbSzbTzbUzbVzbWzbXzbYzbZnB
    OLD_SCRIPT_CAPITAL_AziBziCziDziEziFziGziHziIziJziKziLziMziNziOziPziQziRziSziTziUziVziWziXziYzi
    ZzSMALL_AzgBzgCzgDzgEzgFzgGzgHzgIzgJzgKzgLzgMzgNzgOzgPzgQzgRzgSzgTzgUzgVzgWzgXzgYzgZnFRAKTUR_C
    APITAL_AzeB=1D507zeDzeEzeFzeG=1D50DzeJzeKzeLzeMzeNzeOzePzeQ=1D516zeSzeTzeUzeVzeWzeXzeY=1D51EvS
    MALL_AzcBzcCzcDzcEzcFzcGzcHzcIzcJzcKzcLzcMzcNzcOzcPzcQzcRzcSzcTzcUzcVzcWzcXzcYzcZnDOUBLE-STRUC
    K_CAPITAL_AzkB=1D53BzkDzkEzkFzkG=1D540zkIzkJzkKzkLzkM=1D546zkO=1D54AzkSzkTzkUzkVzkWzkXzkY=1D55
    2zcSMALL_AziBziCziDziEziFziGziHziIziJziKziLziMziNziOziPziQziRziSziTziUziVziWziXziYziZnBOLD_FRA
    KTUR_CAPITAL_AzjBzjCzjDzjEzjFzjGzjHzjIzjJzjKzjLzjMzjNzjOzjPzjQzjRzjSzjTzjUzjVzjWzjXzjYzjZzbSMA
    LL_AzhBzhCzhDzhEzhFzhGzhHzhIzhJzhKzhLzhMzhNzhOzhPzhQzhRzhSzhTzhUzhVzhWzhXzhYzhZnSANS-SERIF_CAP
    ITAL_AzhBzhCzhDzhEzhFzhGzhHzhIzhJzhKzhLzhMzhNzhOzhPzhQzhRzhSzhTzhUzhVzhWzhXzhYzhZySMALL_AzfBzf
    CzfDzfEzfFzfGzfHzfIzfJzfKzfLzfMzfNzfOzfPzfQzfRzfSzfTzfUzfVzfWzfXzfYzfZyBOLD_CAPITAL_AzmBzmCzmD
    zmEzmFzmGzmHzmIzmJzmKzmLzmMzmNzmOzmPzmQzmRzmSzmTzmUzmVzmWzmXzmYzmZzeSMALL_AzkBzkCzkDzkEzkFzkGz
    kHzkIzkJzkKzkLzkMzkNzkOzkPzkQzkRzkSzkTzkUzkVzkWzkXzkYzkZyITALIC_CAPITAL_AzoBzoCzoDzoEzoFzoGzoH
    zoIzoJzoKzoLzoMzoNzoOzoPzoQzoRzoSzoTzoUzoVzoWzoXzoYzoZzgSMALL_AzmBzmCzmDzmEzmFzmGzmHzmIzmJzmKz
    mLzmMzmNzmOzmPzmQzmRzmSzmTzmUzmVzmWzmXzmYzmZyBOLD_ITALIC_CAPITAL_AztBztCztDztEztFztGztHztIztJz
    tKztLztMztNztOztPztQztRztSztTztUztVztWztXztYztZzlSMALL_AzrBzrCzrDzrEzrFzrGzrHzrIzrJzrKzrLzrMzr
    NzrOzrPzrQzrRzrSzrTzrUzrVzrWzrXzrYzrZnMONOSPACE_CAPITAL_AzgBzgCzgDzgEzgFzgGzgHzgIzgJzgKzgLzgMz
    gNzgOzgPzgQzgRzgSzgTzgUzgVzgWzgXzgYzgZxSMALL_AzeBzeCzeDzeEzeFzeGzeHzeIzeJzeKzeLzeMzeNzeOzePzeQ
    zeRzeSzeTzeUzeVzeWzeXzeYzeZnITALIC_SMALL_DOTLESS_IzjJ=1D6A8nBOLD_CAPITAL_ALPHAzbBETAzbGAMMAzbD
    ELTAzbEPSILONzbZETAzbETAzbTHETAzbIOTAzbKAPPAzbLAMDAzbMUzbNUzbXIzbOMICRONzbPIzbRHOzbTHETA_SYMBO
    LzbSIGMAzbTAUzbUPSILONzbPHIzbCHIzbPSIzbOMEGAsNABLAsSMALL_ALPHAyBETAyGAMMAyDELTAyEPSILONyZETAyE
    TAyTHETAyIOTAyKAPPAyLAMDAyMUyNUyXIyOMICRONyPIyRHOyFINAL_SIGMAySIGMAyTAUyUPSILONyPHIyCHIyPSIyOM
    EGAsPARTIAL_DIFFERENTIALsEPSILON_SYMBOLsTHETA_SYMBOLsKAPPA_SYMBOLsPHI_SYMBOLsRHO_SYMBOLsPI_SYM
    BOLnITALIC_CAPITAL_ALPHAzdBETAzdGAMMAzdDELTAzdEPSILONzdZETAzdETAzdTHETAzdIOTAzdKAPPAzdLAMDAzdM
    UzdNUzdXIzdOMICRONzdPIzdRHOzdTHETA_SYMBOLzdSIGMAzdTAUzdUPSILONzdPHIzdCHIzdPSIzdOMEGAuNABLAuSMA
    LL_ALPHAzbBETAzbGAMMAzbDELTAzbEPSILONzbZETAzbETAzbTHETAzbIOTAzbKAPPAzbLAMDAzbMUzbNUzbXIzbOMICR
    ONzbPIzbRHOzbFINAL_SIGMAzbSIGMAzbTAUzbUPSILONzbPHIzbCHIzbPSIzbOMEGAuPARTIAL_DIFFERENTIALuEPSIL
    ON_SYMBOLuTHETA_SYMBOLuKAPPA_SYMBOLuPHI_SYMBOLuRHO_SYMBOLuPI_SYMBOLnBOLD_ITALIC_CAPITAL_ALPHAz
    iBETAziGAMMAziDELTAziEPSILONziZETAziETAziTHETAziIOTAziKAPPAziLAMDAziMUziNUziXIziOMICRONziPIziR
    HOziTHETA_SYMBOLziSIGMAziTAUziUPSILONziPHIziCHIziPSIziOMEGAzNABLAzSMALL_ALPHAzgBETAzgGAMMAzgDE
    LTAzgEPSILONzgZETAzgETAzgTHETAzgIOTAzgKAPPAzgLAMDAzgMUzgNUzgXIzgOMICRONzgPIzgRHOzgFINAL_SIGMAz
    gSIGMAzgTAUzgUPSILONzgPHIzgCHIzgPSIzgOMEGAzPARTIAL_DIFFERENTIALzEPSILON_SYMBOLzTHETA_SYMBOLzKA
    PPA_SYMBOLzPHI_SYMBOLzRHO_SYMBOLzPI_SYMBOLnSANS-SERIF_BOLD_CAPITAL_ALPHAzmBETAzmGAMMAzmDELTAzm
    EPSILONzmZETAzmETAzmTHETAzmIOTAzmKAPPAzmLAMDAzmMUzmNUzmXIzmOMICRONzmPIzmRHOzmTHETA_SYMBOLzmSIG
    MAzmTAUzmUPSILONzmPHIzmCHIzmPSIzmOMEGAzeNABLAzeSMALL_ALPHAzkBETAzkGAMMAzkDELTAzkEPSILONzkZETAz
    kETAzkTHETAzkIOTAzkKAPPAzkLAMDAzkMUzkNUzkXIzkOMICRONzkPIzkRHOzkFINAL_SIGMAzkSIGMAzkTAUzkUPSILO
    NzkPHIzkCHIzkPSIzkOMEGAzePARTIAL_DIFFERENTIALzeEPSILON_SYMBOLzeTHETA_SYMBOLzeKAPPA_SYMBOLzePHI
    _SYMBOLzeRHO_SYMBOLzePI_SYMBOLzeITALIC_CAPITAL_ALPHAztBETAztGAMMAztDELTAztEPSILONztZETAztETAzt
    THETAztIOTAztKAPPAztLAMDAztMUztNUztXIztOMICRONztPIztRHOztTHETA_SYMBOLztSIGMAztTAUztUPSILONztPH
    IztCHIztPSIztOMEGAzlNABLAzlSMALL_ALPHAzrBETAzrGAMMAzrDELTAzrEPSILONzrZETAzrETAzrTHETAzrIOTAzrK
    APPAzrLAMDAzrMUzrNUzrXIzrOMICRONzrPIzrRHOzrFINAL_SIGMAzrSIGMAzrTAUzrUPSILONzrPHIzrCHIzrPSIzrOM
    EGAzlPARTIAL_DIFFERENTIALzlEPSILON_SYMBOLzlTHETA_SYMBOLzlKAPPA_SYMBOLzlPHI_SYMBOLzlRHO_SYMBOLz
    lPI_SYMBOLnBOLD_CAPITAL_DIGAMMAsSMALL_DIGAMMA=1D7CEsDIGIT_ZEROyONEyTWOzHREEyFOURzIVEySIXzEVENy
    EIGHTyNINEnDOUBLE-STRUCK_DIGIT_ZEROziONEziTWOzjHREEziFOURzjIVEziSIXzjEVENziEIGHTziNINEnSANS-SE
    RIF_DIGIT_ZEROzfONEzfTWOzgHREEzfFOURzgIVEzfSIXzgEVENzfEIGHTzfNINEyBOLD_DIGIT_ZEROzkONEzkTWOzlH
    REEzkFOURzlIVEzkSIXzlEVENzkEIGHTzkNINEnMONOSPACE_DIGIT_ZEROzeONEzeTWOzfHREEzeFOURzfIVEzeSIXzfE
    VENzeEIGHTzeNINEaSIGNWRITING_HAND-FIST_INDEXrCIRCLE_INDEXsUP_INDEXrOVAL_INDEXrHINGE_INDEXrANGL
    E_INDEXrFIST_INDEX_BENTrCIRCLE_INDEX_BENTrFIST_THUMB_UNDER_INDEX_BENTwINDEX_RAISED_KNUCKLEzdCU
    PPEDzdHINGEDzj_LOWrCIRCLE_INDEX_HINGErFIST_INDEX_MIDDLErCIRCLE_INDEX_MIDDLErFIST_INDEX_MIDDLE_
    BENTzkRAISED_KNUCKLESzkHINGEDzdUP_MIDDLE_HINGEDzdHINGED_MIDDLE_UPzdMIDDLE_CONJOINEDzt_INDEX_BE
    NTzuMIDDLE_BENTzuCUPPEDzuHINGEDzlROSSEDrCIRCLE_INDEX_MIDDLE_CROSSEDrFIST_MIDDLE_BENT_OVER_INDE
    XwINDEX_BENT_OVER_MIDDLEzdMIDDLE_THUMBrCIRCLE_INDEX_MIDDLE_THUMBrFIST_INDEX_MIDDLE_STRAIGHT_TH
    UMB_BENTzkBENT_THUMB_STRAIGHTzkTHUMB_BENTzkHINGED_SPREAD_THUMB_SIDEzdUP_MIDDLE_HINGED_THUMB_SI
    DEzzbCONJOINEDzdHINGED_MIDDLE_UP_THUMB_SIDEzdMIDDLE_UP_SPREAD_THUMB_FORWARDzkTHUMB_CUPPEDzrIRC
    LEDzqHOOKEDzrINGEDwTHUMB_BETWEEN_INDEX_MIDDLE_STRAIGHTwINDEX_MIDDLE_CONJOINED_THUMB_SIDEzzf_CO
    NJOINEDzzgBENTwMIDDLE_THUMB_HOOKED_INDEX_UPwINDEX_THUMB_HOOKED_MIDDLE_UPzdMIDDLE_CONJOINED_HIN
    GED_THUMB_SIDEzlROSSED_THUMB_SIDEzlONJOINED_THUMB_FORWARDzuCUPPED_THUMB_FORWARDwMIDDLE_THUMB_C
    UPPED_INDEX_UPwINDEX_THUMB_CUPPED_MIDDLE_UPwMIDDLE_THUMB_CIRCLED_INDEX_UPzyHINGEDwINDEX_THUMB_
    ANGLED_OUT_MIDDLE_UPzqIN_MIDDLE_UPzjCIRCLED_MIDDLE_UPzdMIDDLE_THUMB_CONJOINED_HINGEDzqANGLED_O
    UTzvDwMIDDLE_THUMB_ANGLED_OUT_INDEX_UPzzcCROSSEDzrINDEX_UPwINDEX_THUMB_HOOKED_MIDDLE_HINGEDsLA
    T_FOUR_FINGERSzj_BENTzkHINGEDzkCONJOINEDzt_SPLITrCLAW_FOUR_FINGERS_CONJOINEDrFIST_FOUR_FINGERS
    _CONJOINED_BENTrHINGE_FOUR_FINGERS_CONJOINEDrFLAT_FIVE_FINGERS_SPREADwHEEL_FIVE_FINGERS_SPREAD
    wFIVE_FINGERS_SPREAD_FOUR_BENTwHEEL_FIVE_FINGERS_SPREAD_FOUR_BENTwFIVE_FINGERS_SPREAD_BENTwHEE
    L_FIVE_FINGERS_SPREAD_BENTwFIVE_FINGERS_SPREAD_THUMB_FORWARDrCUP_FIVE_FINGERS_SPREADzp_OPENrHI
    NGE_FIVE_FINGERS_SPREAD_OPENrOVAL_FIVE_FINGERS_SPREADrFLAT_FIVE_FINGERS_SPREAD_HINGEDzx_THUMB_
    SIDEzyNO_THUMBuTv_BETWEEN_PALM_FACINGSwHEELwTHUMB_SIDEwHEEL_THUMB_SIDEwTHUMB_BENTzdFORWARDwSPL
    IT_INDEX_THUMB_SIDEzdCENTREzj_THUMB_SIDEzu_BENTzdLITTLErCLAWv_THUMB_SIDEwNO_THUMBwTHUMB_FORWAR
    DrHOOK_CURLICUEuKrCUP_OPENtPu_OPEN_THUMB_SIDEvTHUMB_SIDEvOPEN_NO_THUMBvNO_THUMBvOPEN_THUMB_FOR
    WARDvTHUMB_FORWARDtRLICUE_OPENyEsIRCLErOVALv_THUMB_SIDEwNO_THUMBwTHUMB_FORWARDrHINGE_OPENzc_TH
    UMB_FORWARDvEw_SMALLxOPEN_THUMB_SIDExTHUMB_SIDExOPEN_NO_THUMBxNO_THUMBxTHUMB_SIDE_TOUCHING_IND
    EXzeBETWEEN_MIDDLE_RINGrANGLErFIST_INDEX_MIDDLE_RINGrCIRCLE_INDEX_MIDDLE_RINGrHINGE_INDEX_MIDD
    LE_RINGrANGLE_INDEX_MIDDLE_RINGrHINGE_LITTLErFIST_INDEX_MIDDLE_RING_BENTzpCONJOINEDrHINGE_INDE
    X_MIDDLE_RING_CONJOINEDrFIST_LITTLE_DOWNzi_RIPPLE_STRAIGHTzqCURVEDzjOTHERS_CIRCLEDzeUPwTHUMB_U
    NDER_LITTLE_UPrCIRCLE_LITTLE_UPrOVAL_LITTLE_UPrANGLE_LITTLE_UPrFIST_LITTLE_RAISED_KNUCKLEzeBEN
    TzeTOUCHES_THUMBzfHUMBrHINGE_LITTLE_THUMBrFIST_LITTLE_INDEX_THUMBrHINGE_LITTLE_INDEX_THUMBrANG
    LE_LITTLE_INDEX_THUMB_INDEX_THUMB_OUTzzcBrFIST_LITTLE_INDEXrCIRCLE_LITTLE_INDEXrHINGE_LITTLE_I
    NDEXrANGLE_LITTLE_INDEXrFIST_INDEX_MIDDLE_LITTLErCIRCLE_INDEX_MIDDLE_LITTLErHINGE_INDEX_MIDDLE
    _LITTLExRINGrANGLE_INDEX_MIDDLE_LITTLErFIST_INDEX_MIDDLE_CROSS_LITTLErCIRCLE_INDEX_MIDDLE_CROS
    S_LITTLErFIST_RING_DOWNrHINGE_RING_DOWN_INDEX_THUMB_HOOK_MIDDLErANGLE_RING_DOWN_MIDDLE_THUMB_I
    NDEX_CROSSrFIST_RING_UPzcRAISED_KNUCKLEzcLITTLErCIRCLE_RING_LITTLErOVAL_RING_LITTLErANGLE_RING
    _LITTLErFIST_RING_MIDDLEzi_CONJOINEDzjRAISED_KNUCKLESzcINDEXzcTHUMBrHOOK_RING_THUMBrFIST_INDEX
    _RING_LITTLErCIRCLE_INDEX_RING_LITTLEsURLICUE_INDEX_RING_LITTLE_ONrHOOK_INDEX_RING_LITTLE_OUTz
    pINzpUNDERrCUP_INDEX_RING_LITTLErHINGE_INDEX_RING_LITTLErANGLE_INDEX_RING_LITTLE_OUTzoErFIST_M
    IDDLE_DOWNrHINGE_MIDDLErFIST_MIDDLE_UPrCIRCLE_MIDDLE_UPrFIST_MIDDLE_RAISED_KNUCKLEzeUP_THUMB_S
    IDErHOOK_MIDDLE_THUMBrFIST_MIDDLE_THUMB_LITTLEzeLITTLEzeRING_LITTLErCIRCLE_MIDDLE_RING_LITTLEs
    URLICUE_MIDDLE_RING_LITTLE_ONtP_MIDDLE_RING_LITTLErHINGE_MIDDLE_RING_LITTLErANGLE_MIDDLE_RING_
    LITTLE_OUTzrINzpErCIRCLE_MIDDLE_RING_LITTLE_BENTsLAW_MIDDLE_RING_LITTLE_CONJOINEDzz_SIDErHOOK_
    MIDDLE_RING_LITTLE_CONJOINED_OUTzzbINzyDsINGE_INDEX_HINGEDrFIST_INDEX_THUMB_SIDErHINGE_INDEX_T
    HUMB_SIDErFIST_INDEX_THUMB_SIDE_THUMB_DIAGONALzuCONJOINEDzuBENTzoINDEX_BENTzoBOTH_BENTzoINDEX_
    HINGEzjFORWARD_INDEX_STRAIGHTzxBENTzjHOOKzjCURLICUEzmVE_THUMB_INSIDErCLAW_INDEX_THUMB_CURVE_TH
    UMB_INSIDErFIST_INDEX_THUMB_CURVE_THUMB_UNDERzkIRCLErCUP_INDEX_THUMBzh_OPENrHINGE_INDEX_THUMB_
    OPENzkLARGEziBzj_SMALLrANGLE_INDEX_THUMB_OUTzkINziBrFIST_THUMBzc_HEELzdSIDE_DIAGONALziCONJOINE
    DziBENTzdFORWARDzdBETWEEN_INDEX_MIDDLEzlMIDDLE_RINGzlRING_LITTLEzdUNDER_TWO_FINGERSzdOVER_TWO_
    FINGERSzdUNDER_THREE_FINGERSzjFOUR_FINGERSzdOVER_FOUR_RAISED_KNUCKLESuTv_HEELmTOUCH_SINGLEsMUL
    TIPLEsBETWEENmGRASP_SINGLEsMULTIPLEsBETWEENmSTRIKE_SINGLEtMULTIPLEtBETWEENmBRUSH_SINGLEsMULTIP
    LEsBETWEENmRUB_SINGLEqMULTIPLEqBETWEENmSURFACE_SYMBOLSuBETWEENnQUEEZE_LARGE_SINGLEuSMALL_SINGL
    EuLARGE_MULTIPLEuSMALL_MULTIPLEvEQUENTIALmFLICK_LARGE_SINGLEsSMALL_SINGLEsLARGE_MULTIPLEsSMALL
    _MULTIPLEtEQUENTIALmSQUEEZE_FLICK_ALTERNATINGmMOVEMENT-HINGE_UP_DOWN_LARGEzkSMALLzfSEQUENTIALz
    cDOWN_SEQUENTIALzcUP_DOWN_ALTERNATING_LARGEzwSMALLzcSIDE_TO_SIDE_SCISSORSvWALLPLANE_FINGER_CON
    TACTvFLOORPLANE_FINGER_CONTACTvWALLPLANE_SINGLE_STRAIGHT_SMALLzwMEDIUMzwLARGEzzcSTznWRIST_FLEX
    zgDOUBLE_STRAIGHTznWRIST_FLEXznALTERNATINGzy_WRIST_FLEXzgCROSSzgTRIPLE_STRAIGHT_MOVEMENTznWRIS
    T_FLEXznALTERNATINGzy_WRIST_FLEXzgBEND_SMALLzlMEDIUMzlLARGEzgCORNER_SMALLznMEDIUMznLARGEznROTA
    TIONzhHECK_SMALLzmMEDIUMzmLARGEzgBOX_SMALLzkMEDIUMzkLARGEzgZIGZAG_SMALLznMEDIUMznLARGEzgPEAKS_
    SMALLzmMEDIUMzmLARGEmTRAVEL-WALLPLANE_ROTATION-WALLPLANE_SINGLEzxDOUBLEzxALTERNATINGznFLOORPLA
    NE_SINGLEzyDOUBLEzyALTERNATINGzeSHAKINGzeARM_SPIRAL_SINGLEzpDOUBLEzpTRIPLEmMOVEMENT-DIAGONAL_A
    WAY_SMALLzkMEDIUMzkLARGEzpSTzfTOWARDS_SMALLznMEDIUMznLARGEzsSTzfBETWEEN_AWAY_SMALLzsMEDIUMzsLA
    RGEzxSTznTOWARDS_SMALLzvMEDIUMzvLARGEzzbSTvFLOORPLANE_SINGLE_STRAIGHT_SMALLzxMEDIUMzxLARGEzzdS
    TzoWRIST_FLEXzhDOUBLE_STRAIGHTzoWRIST_FLEXzoALTERNATINGzz_WRIST_FLEXzhCROSSzhTRIPLE_STRAIGHT_M
    OVEMENTzoWRIST_FLEXzoALTERNATING_MOVEMENTzzbWRIST_FLEXzhBENDzhCORNER_SMALLzoMEDIUMzoLARGEziHEC
    KzhBOX_SMALLzlMEDIUMzlLARGEzhZIGZAG_SMALLzoMEDIUMzoLARGEzhPEAKS_SMALLznMEDIUMznLARGEmTRAVEL-FL
    OORPLANE_ROTATION-FLOORPLANE_SINGLEzzDOUBLEzzALTERNATINGzoWALLPLANE_SINGLEzyDOUBLEzyALTERNATIN
    GzfSHAKINGmMOVEMENT-WALLPLANE_CURVE_QUARTER_SMALLzuMEDIUMzuLARGEzzSTzmHALF-CIRCLE_SMALLzyMEDIU
    MzyLARGEzzeSTzmTHREE-QUARTER_CIRCLE_SMALLzziMEDIUMzgHUMP_SMALLzlMEDIUMzlLARGEzgLOOP_SMALLzlMED
    IUMzlLARGEzlSMALL_DOUBLEzgWAVE_CURVE_DOUBLE_SMALLzyMEDIUMzyLARGEzrTRIPLE_SMALLzyMEDIUMzyLARGEz
    gCURVE_THEN_STRAIGHTzlD_CROSS_SMALLztMEDIUMmROTATION-WALLPLANE_SINGLEzgDOUBLEzgALTERNATEmMOVEM
    ENT-WALLPLANE_SHAKINGzgCURVE_HITTING_FRONT_WALLzgHUMP_HITTING_FRONT_WALLzgLOOP_HITTING_FRONT_W
    ALLzgWAVE_HITTING_FRONT_WALLmROTATION-WALLPLANE_SINGLE_HITTING_FRONT_WALLzgDOUBLE_HITTING_FRON
    T_WALLzgALTERNATING_HITTING_FRONT_WALLmMOVEMENT-WALLPLANE_CURVE_HITTING_CHESTzgHUMP_HITTING_CH
    ESTzgLOOP_HITTING_CHESTzgWAVE_HITTING_CHESTmROTATION-WALLPLANE_SINGLE_HITTING_CHESTzgDOUBLE_HI
    TTING_CHESTzgALTERNATING_HITTING_CHESTmMOVEMENT-WALLPLANE_WAVE_DIAGONAL_PATH_SMALLzzMEDIUMzzLA
    RGEvFLOORPLANE_CURVE_HITTING_CEILING_SMALLzzeLARGEzhHUMP_HITTING_CEILING_SMALL_DOUBLEzzdLARGE_
    DOUBLEzzdSMALL_TRIPLEzzdLARGE_TRIPLEzhLOOP_HITTING_CEILING_SMALL_SINGLEzzdLARGE_SINGLEzzdSMALL
    _DOUBLEzzdLARGE_DOUBLEzhWAVE_HITTING_CEILING_SMALLzzdLARGEmROTATION-FLOORPLANE_SINGLE_HITTING_
    CEILINGzhDOUBLE_HITTING_CEILINGzhALTERNATING_HITTING_CEILINGmMOVEMENT-FLOORPLANE_CURVE_HITTING
    _FLOOR_SMALLzzcLARGEzhHUMP_HITTING_FLOOR_SMALL_DOUBLEzzbLARGE_DOUBLEzzbTRIPLE_SMALL_TRIPLEzziL
    ARGE_TRIPLEzhLOOP_HITTING_FLOOR_SMALL_SINGLEzzbLARGE_SINGLEzzbSMALL_DOUBLEzzbLARGE_DOUBLEzhWAV
    E_HITTING_FLOOR_SMALLzzbLARGEmROTATION-FLOORPLANE_SINGLE_HITTING_FLOORzhDOUBLE_HITTING_FLOORzh
    ALTERNATING_HITTING_FLOORmMOVEMENT-FLOORPLANE_CURVE_SMALLznMEDIUMznLARGEzsSTznCOMBINEDzhHUMP_S
    MALLzhLOOP_SMALLzhWAVE_SNAKEznMALLzmLARGEmROTATION-FLOORPLANE_SINGLEzhDOUBLEzhALTERNATINGmMOVE
    MENT-FLOORPLANE_SHAKING_PARALLELvWALLPLANE_ARM_CIRCLE_SMALL_SINGLEzrMEDIUM_SINGLEzrSMALL_DOUBL
    EzrMEDIUM_DOUBLEvFLOORPLANE_ARM_CIRCLE_HITTING_WALL_SMALL_SINGLEzzgMEDIUM_SINGLEzzgLARGE_SINGL
    EzzgSMALL_DOUBLEzzgMEDIUM_DOUBLEzzgLARGE_DOUBLEvWALLPLANE_WRIST_CIRCLE_FRONT_SINGLEzzDOUBLEvFL
    OORPLANE_WRIST_CIRCLE_HITTING_WALL_SINGLEzziDOUBLEvWALLPLANE_FINGER_CIRCLES_SINGLEzvDOUBLEvFLO
    ORPLANE_FINGER_CIRCLES_HITTING_WALL_SINGLEzzkDOUBLEmDYNAMIC_ARROWHEAD_SMALLzfLARGEuFASTuSLOWuT
    ENSEuRELAXEDuSIMULTANEOUSzh_ALTERNATINGuEVERY_OTHER_TIMEuGRADUALmHEADq_RIMrMOVEMENT-WALLPLANE_
    STRAIGHTzlTILTzbFLOORPLANE_STRAIGHTzbWALLPLANE_CURVEzbFLOORPLANE_CURVEz_CIRCLEmFACE_DIRECTION_
    POSITION_NOSE_FORWARD_TILTINGzqUP_OR_DOWNzzb_TILTINGmEYEBROWS_STRAIGHT_UPzfNEUTRALzfDOWNmDREAM
    Y_EYEBROWS_NEUTRAL_DOWNzdDOWN_NEUTRALzdUP_NEUTRALzdNEUTRAL_UPmFOREHEAD_NEUTRALvCONTACTvWRINKLE
    DmEYES_OPENrSQUEEZEDrCLOSEDp_BLINK_SINGLEwMULTIPLEpS_HALF_OPENrWIDE_OPENrHALF_CLOSEDrWIDENING_
    MOVEMENTp_WINKpLASHES_UPwDOWNwFLUTTERINGpGAZE-WALLPLANE_STRAIGHTzn_DOUBLEzoALTERNATINGuFLOORPL
    ANE_STRAIGHTzo_DOUBLEzpALTERNATINGuWALLPLANE_CURVEDuFLOORPLANE_CURVEDuWALLPLANE_CIRCLINGmCHEEK
    S_PUFFEDtNEUTRALtSUCKEDmTENSE_CHEEKS_HIGHzMIDDLEzLOWmEARSmNOSE_NEUTRALrCONTACTrWRINKLESsIGGLES
    mAIR_BLOWING_OUTqSUCKING_INqBLOW_SMALL_ROTATIONSqSUCK_SMALL_ROTATIONSmBREATH_INHALEtEXHALEmMOU
    TH_CLOSED_NEUTRALzFORWARDzCONTACTsSMILEx_WRINKLEDyOPENsFROWNx_WRINKLEDyOPENsOPEN_CIRCLExFORWAR
    DxWRINKLEDxOVALzc_WRINKLEDzdYAWNxRECTANGLEzh_WRINKLEDziYAWNsKISSw_FORWARDxWRINKLEDsTENSEx_FORW
    ARDySUCKEDmLIPS_PRESSED_TOGETHERp_LOWER_OVER_UPPERqUPPER_OVER_LOWERmMOUTH_CORNERSsWRINKLES_SIN
    GLEzcDOUBLEmTONGUE_STICKING_OUT_FARtLICKING_LIPStTIP_BETWEEN_LIPSxTOUCHING_INSIDE_MOUTHtINSIDE
    _MOUTH_RELAXEDtMOVES_AGAINST_CHEEKtCENTRE_STICKING_OUTzbINSIDE_MOUTHnEETHr_MOVEMENTsON_TONGUEz
    c_MOVEMENTvLIPSz_MOVEMENTsBITE_LIPSmMOVEMENT-WALLPLANE_JAWvFLOORPLANE_JAWmNECKmHAIRmEXCITEMENT
    mSHOULDER_HIP_SPINEzPOSITIONSmWALLPLANE_SHOULDER_HIP_MOVEmFLOORPLANE_SHOULDER_HIP_MOVEmSHOULDE
    R_TILTING_FROM_WAISTmTORSO-WALLPLANE_STRAIGHT_STRETCHzdCURVED_BENDsFLOORPLANE_TWISTINGmUPPER_B
    ODY_TILTING_FROM_HIP_JOINTSmLIMB_COMBINATIONrLENGTH-1y2y3y4y5y6y7mFINGERmLOCATION-WALLPLANE_SP
    ACEvFLOORPLANE_SPACEu_HEIGHTvWIDTHvDEPTHvHEAD_NECKvTORSOvLIMBS_DIGITSmCOMMAmFULL_STOPmSEMICOLO
    NmCOLONmPARENTHESIS=1DA9BmFILL_MODIFIER-2zb3zb4zb5zb6=1DAA1mROTATION_MODIFIER-2zf3zf4zf5zf6zf7
    zf8zf9zf10zg1zg2zg3zg4zg5zg6=1DF00aLATIN_SMALL_LETTER_FENG_DIGRAPH_WITH_TRILLtREVERSED_SCRIPT_
    GgLETTER_SMALL_CAPITAL_TURNED_GgSMALL_LETTER_REVERSED_KgLETTER_SMALL_CAPITAL_L_WITH_BELTgSMALL
    _LETTER_LEZH_WITH_RETROFLEX_HOOKtTURNED_Y_WITH_BELTtREVERSED_ENGtTURNED_R_WITH_LONG_LEG_AND_RE
    TROFLEX_HOOKu_WITH_HOOK_AND_RETROFLEX_HOOKgLETTER_RETROFLEX_CLICK_WITH_RETROFLEX_HOOKgSMALL_LE
    TTER_ESH_WITH_DOUBLE_BARzn_AND_CURLtTURNED_T_WITH_CURLgLETTER_INVERTED_GLOTTAL_STOP_WITH_CURLn
    STRETCHED_C_WITH_CURLoMALL_CAPITAL_TURNED_KgSMALL_LETTER_L_WITH_FISHHOOKtDEZH_DIGRAPH_WITH_PAL
    ATAL_HOOKtL_WITH_BELT_AND_PALATAL_HOOKtENG_WITH_PALATAL_HOOKtTURNED_R_WITH_PALATAL_HOOKtR_WITH
    _FISHHOOK_AND_PALATAL_HOOKtTESH_DIGRAPH_WITH_PALATAL_HOOKtEZH_WITH_PALATAL_HOOKtDEZH_DIGRAPH_W
    ITH_RETROFLEX_HOOKtI_WITH_STROKE_AND_RETROFLEX_HOOKtO_WITH_RETROFLEX_HOOKtTESH_DIGRAPH_WITH_RE
    TROFLEX_HOOKtC_WITH_RETROFLEX_HOOKtS_WITH_CURL=1E000aCOMBINING_GLAGOLITIC_LETTER_AZUzdBUKYzdVE
    DEzdGLAGOLIzdDOBROzdYESTUzdZHIVETE=1E008zeEMLJAzdIZHEzeNITIAL_IZHEzdIzdDJERVIzdKAKOzdLJUDIJEzd
    MYSLITEzdNASHIzdONUzdPOKOJIzdRITSIzdSLOVOzdTVRIDOzdUKUzdFRITUzdHERU=1E01BzdSHTAzdTSIzdCHRIVIzd
    SHAzdYERUzgIzeATI=1E023zeUzdSMALL_YUS=1E026zdYOzdIOTATED_SMALL_YUSzdBIG_YUSzdIOTATED_BIG_YUSzd
    FITA=1E100aNYIAKENG_PUACHUE_HMONG_LETTER_MAzfTSAzfNTAzfTAzfHAzfNAzfXAzfNKAzfCAzfLAzfSAzfZAzfNC
    AzgTSAzfKAzfDAzfNYAzgRAzfVAzfNTXAzfTXAzfFAzfRAzfQAzfYAzfNQAzfPAzfXYAzfNPAzfDLAzfNPLAzfHAHzfMLA
    zfPLAzfGAzfRRAzfAzgAzfIzfUzfOzgOzfEzgEzfW=1E130xTONE-BzdMzdJzdVzdSzdGzdDxSIGN_FOR_PERSONzhTHIN
    GzhLOCATIONzhANIMALzhINVERTEBRATEzdXW_XWyYLLABLE_LENGTHENER=1E140xDIGIT_ZEROzeONEzeTWOzfHREEze
    FOURzfIVEzeSIXzfEVENzeEIGHTzeNINE=1E14ExLOGOGRAM_NYAJxCIRCLED_CA=1E290aTOTO_LETTER_PAmBAmTAmDA
    mKAmGAmMAmNAnGAmSAmCHAmYAmWAmJAmHAmRAmLAmImBREATHY_ImIUmBREATHY_IUmUmEmBREATHY_EmEOmBREATHY_EO
    mOmAEmBREATHY_AEmAfSIGN_RISING_TONE=1E2C0aWANCHO_LETTER_AAoAoBAoCAoDAoGAoYAoPHAoLAoNAoPAoTApHA
    oFAoSApHAoJAoZAoWAoVAoKAoOoAUoRAoMAoKHAoHAoEoIoNGAoUoLLHAoTSApRAoONGoAANGpNGoINGoONoENoAANoNYA
    oUENoYIHhTONE_TUPpNImKOIpNIhDIGIT_ZEROnONEnTWOoHREEnFOURoIVEnSIXoEVENnEIGHTnNINE=1E2FFhNGUN_SI
    GN=1E7E0aETHIOPIC_SYLLABLE_HHYAvUvIvAAvEEvEvO=1E7E8sGURAGE_HHWAsHHWIvEEvE=1E7EDsGURAGE_MWIzcEE
    =1E7F0zQWIzcEEzcEzBWIzcEEzKWIzcEEzcEzGWIzcEEzcEzFWIzcEEzPWIzcEE=1E800aMENDE_KIKAKUI_SYLLABLE_M
    001_KIzb2_KAzb3_KUz65_KEEz95_KEz76_KOOz48_KOy179_KUAy004_WIzb5_WAzb6_WUy126_WEEz18_WEzb4_WOOy0
    45_WOy194_WUIz43_WEIy061_WVIz49_WVAy139_WVEy007_MINzb8_MANzb9_MUNz59_MENz94_MONy154_MUANz89_MU
    ENy010_BIzb1_BAzb2_BUy150_BEEy097_BEy103_BOOz38_BOy013_Izb4_Azb5_Uy163_EEz00_Ez65_OOz47_Oz37_E
    Izb1_INzb5_INz95_ANz78_ENy019_SIz20_SAzb1_SUy162_SEEz16_SEz36_SOOy079_SOy196_SIAy025_LIzb6_LAz
    b7_LUz84_LEEz73_LEz54_LOOy153_LOz10_LONG_LEy016_DIzb7_DAzb8_DUz89_DEEy180_DOOzb1_DOy022_TIzb3_
    TAzb4_TUz91_TEEz55_TEy104_TOOy069_TOz28_JIzb9_JAz30_JUy157_JEEz13_JEz60_JOOy063_JOy175_LONG_JO
    y031_YIzb2_YAzb3_YUy109_YEEy080_YEy141_YOOz21_YOy034_FIzb5_FAzb6_FUz78_FEEzb5_FEy133_FOOy088_F
    Oy197_FUAz01_FANy037_NINzb8_NANzb9_NUNy117_NENz69_NONz76_HIy041_HAy186_HUy040_HEEz96_HEz42_HOO
    y140_HOy083_HEEIy128_HOOUy053_HINy130_HANy087_HUNz52_HENy193_HONy046_HUANz90_NGGIz43_NGGAz82_N
    GGUy115_NGGEEz46_NGGEz56_NGGOOz20_NGGOz59_NGGAAz27_NGGUAy086_LONG_NGGEy106_LONG_NGGOOz83_LONG_
    NGGOz55_GIz11_GAz68_GUz90_GEEz66_GUEIzb7_GUANz84_NGENy057_NGONy177_NGUANy068_PIz99_PAz50_PUz81
    _PEEz51_PEy102_POOy066_POy145_MBIy062_MBAy122_MBUy047_MBEEy188_MBEEy072_MBEy172_MBOOzb4_MBOz87
    _MBUUz61_LONG_MBEz05_LONG_MBOOz42_LONG_MBOz32_KPIy092_KPAz74_KPUz44_KPEEy108_KPEz12_KPOOz58_KP
    Oz24_GBIy056_GBAy148_GBUy093_GBEEy107_GBEy071_GBOOzb0_GBOy171_RAz23_NDIzb9_NDAzb5_NDUz91_NDEEz
    19_NDEy067_NDOOzb4_NDOy152_NJAz92_NJUz49_NJEEz34_NJOOz82_VIzb5_VAz51_VUz73_VEEy085_VEy144_VOOy
    077_VOy164_NYINy058_NYANy170_NYUNy098_NYENz60_NYON=1E8C7oDIGIT_ONEuTWOvHREEuFOURvIVEuSIXvEVENu
    EIGHTuNINEoCOMBINING_NUMBER_TEENSziNSzgHUNDREDSzgTHOUSANDSzhEN_THOUSANDSzgHUNDRED_THOUSANDSzgM
    ILLIONS=1E900aADLAM_CAPITAL_LETTER_ALIFvDAALIvLAAMvMIIMvBAvSINNYIIYHEvPEvBHEvRAvEvFAvIvOvDHAvY
    HEvWAWvNUNvKAFvYAvUvJIIMvCHIvHAvQAAFvGAvNYAvTUvNHAvVAvKHAvGBEvZALvKPOvSHAgSMALL_LETTER_ALIFtDA
    ALItLAAMtMIIMtBAtSINNYIIYHEtPEtBHEtRAtEtFAtItOtDHAtYHEtWAWtNUNtKAFtYAtUtJIIMtCHItHAtQAAFtGAtNY
    AtTUtNHAtVAtKHAtGBEtZALtKPOtSHAgALIF_LENGTHENERgVOWEL_LENGTHENERgGEMINATION_MARKgHAMZAgCONSONA
    NT_MODIFIERgGEMINATE_CONSONANT_MODIFIERgNUKTAhASALIZATION_MARK=1E950gDIGIT_ZEROmONEmTWOnHREEmF
    OURnIVEmSIXnEVENmEIGHTmNINE=1E95EgINITIAL_EXCLAMATION_MARKoQUESTION_MARK=1EC71aINDIC_SIYAQ_NUM
    BER_ONEtTWOuHREEtFOURuIVEtSIXuEVENtEIGHTtNINEtTENuWENTYuHIRTYtFORTYuIFTYtSIXTYuEVENTYtEIGHTYtN
    INETYtONE_HUNDREDtTWO_HUNDREDuHREE_HUNDREDtFOUR_HUNDREDuIVE_HUNDREDtSIX_HUNDREDuEVEN_HUNDREDtE
    IGHT_HUNDREDtNINE_HUNDREDtONE_THOUSANDtTWO_THOUSANDuHREE_THOUSANDtFOUR_THOUSANDuIVE_THOUSANDtS
    IX_THOUSANDuEVEN_THOUSANDtEIGHT_THOUSANDtNINE_THOUSANDtTEN_THOUSANDuWENTY_THOUSANDuHIRTY_THOUS
    ANDtFORTY_THOUSANDuIFTY_THOUSANDtSIXTY_THOUSANDuEVENTY_THOUSANDtEIGHTY_THOUSANDtNINETY_THOUSAN
    DtLAKHxANmLAKH_MARKmNUMBER_KARORyANtPREFIXED_ONEzdTWOzeHREEzdFOURzeIVEzdSIXzeEVENzdEIGHTzdNINE
    mPLACEHOLDERmFRACTION_ONE_QUARTERzHALFvTHREE_QUARTERSmRUPEE_MARKmNUMBER_ALTERNATE_ONEzeTWOzfEN
    _THOUSANDmALTERNATE_LAKH_MARK=1ED01aOTTOMAN_SIYAQ_NUMBER_ONEvTWOwHREEvFOURwIVEvSIXwEVENvEIGHTv
    NINEvTENwWENTYwHIRTYvFORTYwIFTYvSIXTYwEVENTYvEIGHTYvNINETYvONE_HUNDREDvTWO_HUNDREDwHREE_HUNDRE
    DvFOUR_HUNDREDwIVE_HUNDREDvSIX_HUNDREDwEVEN_HUNDREDvEIGHT_HUNDREDvNINE_HUNDREDvONE_THOUSANDvTW
    O_THOUSANDwHREE_THOUSANDvFOUR_THOUSANDwIVE_THOUSANDvSIX_THOUSANDwEVEN_THOUSANDvEIGHT_THOUSANDv
    NINE_THOUSANDvTEN_THOUSANDwWENTY_THOUSANDwHIRTY_THOUSANDvFORTY_THOUSANDwIFTY_THOUSANDvSIXTY_TH
    OUSANDwEVENTY_THOUSANDvEIGHTY_THOUSANDvNINETY_THOUSANDoMARRATANoALTERNATE_NUMBER_TWOzhHREEzgFO
    URzhIVEzgSIXzhEVENzgEIGHTzgNINEzgTENzgFOUR_HUNDREDzgSIX_HUNDREDzgTWO_THOUSANDzhEN_THOUSANDoFRA
    CTION_ONE_HALFzcSIXTH=1EE00aARABIC_MATHEMATICAL_ALEFuBEHuJEEMuDAL=1EE05uWAWuZAINuHAHuTAHuYEHuK
    AFuLAMuMEEMuNOONuSEENuAINuFEHuSADuQAFuREHuSHEENuTEHvHEHuKHAHuTHALuDADuZAHuGHAINuDOTLESS_BEHzdN
    OONzdFEHzdQAF=1EE21uINITIAL_BEHzdJEEM=1EE24zdHEH=1EE27zeAH=1EE29zdYEHzdKAFzdLAMzdMEEMzdNOONzdS
    EENzdAINzdFEHzdSADzdQAF=1EE34zdSHEENzdTEHzeHEHzdKHAH=1EE39zdDAD=1EE3BzdGHAIN=1EE42uTAILED_JEEM
    =1EE47zcHAH=1EE49zcYEH=1EE4BzcLAM=1EE4DzcNOONzcSEENzcAIN=1EE51zcSADzcQAF=1EE54zcSHEEN=1EE57zcK
    HAH=1EE59zcDAD=1EE5BzcGHAIN=1EE5DzcDOTLESS_NOON=1EE5FzkQAF=1EE61uSTRETCHED_BEHzfJEEM=1EE64zfHE
    H=1EE67zgAHzfTAHzfYEHzfKAF=1EE6CzfMEEMzfNOONzfSEENzfAINzfFEHzfSADzfQAF=1EE74zfSHEENzfTEHzgHEHz
    fKHAH=1EE79zfDADzfZAHzfGHAINzfDOTLESS_BEH=1EE7EznFEH=1EE80uLOOPED_ALEFzcBEHzcJEEMzcDALzcHEHzcW
    AWzcZAINzcHAHzcTAHzcYEH=1EE8BzcLAMzcMEEMzcNOONzcSEENzcAINzcFEHzcSADzcQAFzcREHzcSHEENzcTEHzdHEH
    zcKHAHzcTHALzcDADzcZAHzcGHAIN=1EEA1uDOUBLE-STRUCK_BEHzjJEEMzjDAL=1EEA5zjWAWzjZAINzjHAHzjTAHzjY
    EH=1EEABzjLAMzjMEEMzjNOONzjSEENzjAINzjFEHzjSADzjQAFzjREHzjSHEENzjTEHzkHEHzjKHAHzjTHALzjDADzjZA
    HzjGHAIN=1EEF0uOPERATOR_MEEM_WITH_HAH_WITH_TATWEELzeHAH_WITH_DAL=1F000aMAHJONG_TILE_EAST_WINDn
    SOUTH_WINDnWEST_WINDnNORTH_WINDnRED_DRAGONnGREEN_DRAGONnWHITE_DRAGONnONE_OF_CHARACTERSnTWO_OF_
    CHARACTERSoHREE_OF_CHARACTERSnFOUR_OF_CHARACTERSoIVE_OF_CHARACTERSnSIX_OF_CHARACTERSoEVEN_OF_C
    HARACTERSnEIGHT_OF_CHARACTERSnNINE_OF_CHARACTERSnONE_OF_BAMBOOSnTWO_OF_BAMBOOSoHREE_OF_BAMBOOS
    nFOUR_OF_BAMBOOSoIVE_OF_BAMBOOSnSIX_OF_BAMBOOSoEVEN_OF_BAMBOOSnEIGHT_OF_BAMBOOSnNINE_OF_BAMBOO
    SnONE_OF_CIRCLESnTWO_OF_CIRCLESoHREE_OF_CIRCLESnFOUR_OF_CIRCLESoIVE_OF_CIRCLESnSIX_OF_CIRCLESo
    EVEN_OF_CIRCLESnEIGHT_OF_CIRCLESnNINE_OF_CIRCLESnPLUMnORCHIDnBAMBOOnCHRYSANTHEMUMnSPRINGoUMMER
    nAUTUMNnWINTERnJOKERnBACK=1F030aDOMINO_TILE_HORIZONTAL_BACKw-00-00zc1zc2zc3zc4zc5zc6y1-00zc1zc
    2zc3zc4zc5zc6y2-00zc1zc2zc3zc4zc5zc6y3-00zc1zc2zc3zc4zc5zc6y4-00zc1zc2zc3zc4zc5zc6y5-00zc1zc2z
    c3zc4zc5zc6y6-00zc1zc2zc3zc4zc5zc6mVERTICAL_BACKu-00-00z1z2z3z4z5z6w1-00z1z2z3z4z5z6w2-00z1z2z
    3z4z5z6w3-00z1z2z3z4z5z6w4-00z1z2z3z4z5z6w5-00z1z2z3z4z5z6w6-00z1z2z3z4z5z6=1F0A0aPLAYING_CARD
    _BACKnACE_OF_SPADESnTWO_OF_SPADESoHREE_OF_SPADESnFOUR_OF_SPADESoIVE_OF_SPADESnSIX_OF_SPADESoEV
    EN_OF_SPADESnEIGHT_OF_SPADESnNINE_OF_SPADESnTEN_OF_SPADESnJACK_OF_SPADESnKNIGHT_OF_SPADESnQUEE
    N_OF_SPADESnKING_OF_SPADES=1F0B1nACE_OF_HEARTSnTWO_OF_HEARTSoHREE_OF_HEARTSnFOUR_OF_HEARTSoIVE
    _OF_HEARTSnSIX_OF_HEARTSoEVEN_OF_HEARTSnEIGHT_OF_HEARTSnNINE_OF_HEARTSnTEN_OF_HEARTSnJACK_OF_H
    EARTSnKNIGHT_OF_HEARTSnQUEEN_OF_HEARTSnKING_OF_HEARTSnRED_JOKER=1F0C1nACE_OF_DIAMONDSnTWO_OF_D
    IAMONDSoHREE_OF_DIAMONDSnFOUR_OF_DIAMONDSoIVE_OF_DIAMONDSnSIX_OF_DIAMONDSoEVEN_OF_DIAMONDSnEIG
    HT_OF_DIAMONDSnNINE_OF_DIAMONDSnTEN_OF_DIAMONDSnJACK_OF_DIAMONDSnKNIGHT_OF_DIAMONDSnQUEEN_OF_D
    IAMONDSnKING_OF_DIAMONDSnBLACK_JOKER=1F0D1nACE_OF_CLUBSnTWO_OF_CLUBSoHREE_OF_CLUBSnFOUR_OF_CLU
    BSoIVE_OF_CLUBSnSIX_OF_CLUBSoEVEN_OF_CLUBSnEIGHT_OF_CLUBSnNINE_OF_CLUBSnTEN_OF_CLUBSnJACK_OF_C
    LUBSnKNIGHT_OF_CLUBSnQUEEN_OF_CLUBSnKING_OF_CLUBSnWHITE_JOKERnFOOLnTRUMP-1t2t3t4t5t6t7t8t9t10u
    1u2u3u4u5u6u7u8u9t20u1=1F100aDIGIT_ZERO_FULL_STOPlCOMMAgONE_COMMAgTWO_COMMAhHREE_COMMAgFOUR_CO
    MMAhIVE_COMMAgSIX_COMMAhEVEN_COMMAgEIGHT_COMMAgNINE_COMMAcNGBAT_CIRCLED_SANS-SERIF_DIGIT_ZEROi
    NEGATIVE_CIRCLED_SANS-SERIF_DIGIT_ZEROaCIRCLED_ZERO_WITH_SLASHiANTICLOCKWISE_ARROWiDOLLAR_SIGN
    _WITH_OVERLAID_BACKSLASHaPARENTHESIZED_LATIN_CAPITAL_LETTER_AzkBzkCzkDzkEzkFzkGzkHzkIzkJzkKzkL
    zkMzkNzkOzkPzkQzkRzkSzkTzkUzkVzkWzkXzkYzkZaTORTOISE_SHELL_BRACKETED_LATIN_CAPITAL_LETTER_SaCIR
    CLED_ITALIC_LATIN_CAPITAL_LETTER_CzlRiCDiWZbOPYLEFT_SYMBOLaSQUARED_LATIN_CAPITAL_LETTER_AzeBze
    CzeDzeEzeFzeGzeHzeIzeJzeKzeLzeMzeNzeOzePzeQzeRzeSzeTzeUzeVzeWzeXzeYzeZiHViMViSDjSiPPViWCaNEGAT
    IVE_CIRCLED_LATIN_CAPITAL_LETTER_AznBznCznDznEznFznGznHznIznJznKznLznMznNznOznPznQznRznSznTznU
    znVznWznXznYznZaRAISED_MC_SIGNiD_SIGNiR_SIGNaCIRCLED_CCj_WITH_OVERLAID_BACKSLASHiHUMAN_FIGUREa
    NEGATIVE_SQUARED_LATIN_CAPITAL_LETTER_AznBznCznDznEznFznGznHznIznJznKznLznMznNznOznPznQznRznSz
    nTznUznVznWznXznYznZaCROSSED_NEGATIVE_SQUARED_LATIN_CAPITAL_LETTER_PaNEGATIVE_SQUARED_ICrPArSA
    rABrWCaSQUARE_DJgD_CLjOOLiFREEiIDiNEWjGiOKiSOSiUP_WITH_EXCLAMATION_MARKiVSiTHREE_DiSECOND_SCRE
    ENiTWO_KiFOUR_KiEIGHT_KiFIVE_POINT_ONEiSEVEN_POINT_ONEiTWENTY-TWO_POINT_TWOiSIXTY_PiONE_HUNDRE
    D_TWENTY_PiLATIN_SMALL_LETTER_DiHCjDRjI-RESiLOSSLESSiSHViUHDiVODaMASK_WORK_SYMBOL=1F1E6aREGION
    AL_INDICATOR_SYMBOL_LETTER_AziBziCziDziEziFziGziHziIziJziKziLziMziNziOziPziQziRziSziTziUziVziW
    ziXziYziZaSQUARE_HIRAGANA_HOKAgD_KATAKANA_KOKOrSA=1F210iCJK_UNIFIED_IDEOGRAPH-624Bzf5B57zg3CCi
    KATAKANA_DEiCJK_UNIFIED_IDEOGRAPH-4E8Czf591Azf89E3zf5929zf4EA4zf6620zf7121zf6599zf524DzgF8Czg1
    8Dzf65B0zf521Dzf7D42zg51Fzf8CA9zf58F0zg439zf6F14zg295zg355zf4E00zi9zf904Azf5DE6zf4E2Dzf53F3zf6
    307zf8D70zf6253zf7981zgA7Azf5408zf6E80zg709zi8zf7533zf5272zg5B6zf914D=1F240aTORTOISE_SHELL_BRA
    CKETED_CJK_UNIFIED_IDEOGRAPH-672Czw4E09zy8Czw5B89zw70B9zw6253zw76D7zw52DDzw6557=1F250aCIRCLED_
    IDEOGRAPH_ADVANTAGEtCCEPT=1F260aROUNDED_SYMBOL_FOR_FUtLUtSHOUtXItSHUANGXItCAI=1F300aCYCLONEaFO
    GGYaCLOSED_UMBRELLAaNIGHT_WITH_STARSaSUNRISE_OVER_MOUNTAINSgEaCITYSCAPE_AT_DUSKaSUNSET_OVER_BU
    ILDINGSaRAINBOWaBRIDGE_AT_NIGHTaWATER_WAVEaVOLCANOaMILKY_WAYaEARTH_GLOBE_EUROPE-AFRICAmAMERICA
    SnSIA-AUSTRALIAaGLOBE_WITH_MERIDIANSaNEW_MOON_SYMBOLaWAXING_CRESCENT_MOON_SYMBOLaFIRST_QUARTER
    _MOON_SYMBOLaWAXING_GIBBOUS_MOON_SYMBOLaFULL_MOON_SYMBOLaWANING_GIBBOUS_MOON_SYMBOLaLAST_QUART
    ER_MOON_SYMBOLaWANING_CRESCENT_MOON_SYMBOLaCRESCENT_MOONaNEW_MOON_WITH_FACEaFIRST_QUARTER_MOON
    _WITH_FACEaLAST_QUARTER_MOON_WITH_FACEaFULL_MOON_WITH_FACEaSUN_WITH_FACEaGLOWING_STARaSHOOTING
    _STARaTHERMOMETERaBLACK_DROPLETaWHITE_SUNj_WITH_SMALL_CLOUDkBEHIND_CLOUDw_WITH_RAINaCLOUD_WITH
    _RAINlSNOWlLIGHTNINGlTORNADOaFOGaWIND_BLOWING_FACEaHOT_DOGaTACOaBURRITOaCHESTNUTaSEEDLINGaEVER
    GREEN_TREEaDECIDUOUS_TREEaPALM_TREEaCACTUSaHOT_PEPPERaTULIPaCHERRY_BLOSSOMaROSEaHIBISCUSaSUNFL
    OWERaBLOSSOMaEAR_OF_MAIZEhRICEaHERBaFOUR_LEAF_CLOVERaMAPLE_LEAFaFALLEN_LEAFaLEAF_FLUTTERING_IN
    _WINDaMUSHROOMaTOMATOaAUBERGINEaGRAPESaMELONaWATERMELONaTANGERINEaLEMONaBANANAaPINEAPPLEaRED_A
    PPLEaGREEN_APPLEaPEARdCHaCHERRIESaSTRAWBERRYaHAMBURGERaSLICE_OF_PIZZAaMEAT_ON_BONEaPOULTRY_LEG
    aRICE_CRACKERfBALLaCOOKED_RICEbURRY_AND_RICEaSTEAMING_BOWLbPAGHETTIaBREADaFRENCH_FRIESaROASTED
    _SWEET_POTATOaDANGOaODENaSUSHIaFRIED_SHRIMPbISH_CAKE_WITH_SWIRL_DESIGNaSOFT_ICE_CREAMbHAVED_IC
    EaICE_CREAMaDOUGHNUTaCOOKIEbHOCOLATE_BARbANDYaLOLLIPOPaCUSTARDaHONEY_POTaSHORTCAKEaBENTO_BOXaP
    OT_OF_FOODaCOOKINGaFORK_AND_KNIFEaTEACUP_WITHOUT_HANDLEaSAKE_BOTTLE_AND_CUPaWINE_GLASSaCOCKTAI
    L_GLASSaTROPICAL_DRINKaBEER_MUGaCLINKING_BEER_MUGSaBABY_BOTTLEaFORK_AND_KNIFE_WITH_PLATEaBOTTL
    E_WITH_POPPING_CORKaPOPCORNaRIBBONaWRAPPED_PRESENTaBIRTHDAY_CAKEaJACK-O-LANTERNaCHRISTMAS_TREE
    aFATHER_CHRISTMASbIREWORKSi_SPARKLERaBALLOONaPARTY_POPPERaCONFETTI_BALLaTANABATA_TREEaCROSSED_
    FLAGSaPINE_DECORATIONaJAPANESE_DOLLSaCARP_STREAMERaWIND_CHIMEaMOON_VIEWING_CEREMONYaSCHOOL_SAT
    CHELaGRADUATION_CAPaHEART_WITH_TIP_ON_THE_LEFTaBOUQUET_OF_FLOWERSaMILITARY_MEDALaREMINDER_RIBB
    ONaMUSICAL_KEYBOARD_WITH_JACKSaSTUDIO_MICROPHONEaLEVEL_SLIDERaCONTROL_KNOBSaBEAMED_ASCENDING_M
    USICAL_NOTEShDESCENDING_MUSICAL_NOTESaFILM_FRAMESaADMISSION_TICKETSaCAROUSEL_HORSEaFERRIS_WHEE
    LaROLLER_COASTERaFISHING_POLE_AND_FISHaMICROPHONEbOVIE_CAMERAaCINEMAaHEADPHONEaARTIST_PALETTEa
    TOP_HATaCIRCUS_TENTaTICKETaCLAPPER_BOARDaPERFORMING_ARTSaVIDEO_GAMEaDIRECT_HITaSLOT_MACHINEaBI
    LLIARDSaGAME_DIEaBOWLINGaFLOWER_PLAYING_CARDSaMUSICAL_NOTEcLTIPLE_MUSICAL_NOTESaSAXOPHONEaGUIT
    ARaMUSICAL_KEYBOARDaTRUMPETaVIOLINaMUSICAL_SCOREaRUNNING_SHIRT_WITH_SASHaTENNIS_RACQUET_AND_BA
    LLaSKI_AND_SKI_BOOTaBASKETBALL_AND_HOOPaCHEQUERED_FLAGaSNOWBOARDERaRUNNERaSURFERbPORTS_MEDALaT
    ROPHYaHORSE_RACINGaAMERICAN_FOOTBALLaRUGBY_FOOTBALLaSWIMMERaWEIGHT_LIFTERaGOLFERaRACING_MOTORC
    YCLEhCARaCRICKET_BAT_AND_BALLaVOLLEYBALLaFIELD_HOCKEY_STICK_AND_BALLaICE_HOCKEY_STICK_AND_PUCK
    aTABLE_TENNIS_PADDLE_AND_BALLaSNOW_CAPPED_MOUNTAINaCAMPINGaBEACH_WITH_UMBRELLAbUILDING_CONSTRU
    CTIONaHOUSE_BUILDINGSaCITYSCAPEaDERELICT_HOUSE_BUILDINGaCLASSICAL_BUILDINGaDESERTg_ISLANDaNATI
    ONAL_PARKaSTADIUMaHOUSE_BUILDINGgWITH_GARDENaOFFICE_BUILDINGaJAPANESE_POST_OFFICEaEUROPEAN_POS
    T_OFFICEaHOSPITALaBANKaAUTOMATED_TELLER_MACHINEaHOTELaLOVE_HOTELaCONVENIENCE_STOREaSCHOOLaDEPA
    RTMENT_STOREaFACTORYaIZAKAYA_LANTERNaJAPANESE_CASTLEaEUROPEAN_CASTLEaWHITE_PENNANTaBLACK_PENNA
    NTaWAVING_WHITE_FLAGhBLACK_FLAGaROSETTEaBLACK_ROSETTEaLABELaBADMINTON_RACQUET_AND_SHUTTLECOCKb
    OW_AND_ARROWaAMPHORAaEMOJI_MODIFIER_FITZPATRICK_TYPE-1-2zh3zh4zh5zh6aRATaMOUSEaOXaWATER_BUFFAL
    OaCOWaTIGERaLEOPARDaRABBITaCATaDRAGONaCROCODILEaWHALEaSNAILdKEaHORSEaRAMaGOATaSHEEPaMONKEYaROO
    STERaCHICKENaDOGaPIGaBOARaELEPHANTaOCTOPUSaSPIRAL_SHELLaBUGaANTaHONEYBEEaLADY_BEETLEaFISHaTROP
    ICAL_FISHaBLOWFISHaTURTLEaHATCHING_CHICKaBABY_CHICKaFRONT-FACING_BABY_CHICKaBIRDaPENGUINaKOALA
    aPOODLEaDROMEDARY_CAMELaBACTRIAN_CAMELaDOLPHINaMOUSE_FACEaCOW_FACEaTIGER_FACEaRABBIT_FACEaCAT_
    FACEaDRAGON_FACEaSPOUTING_WHALEaHORSE_FACEaMONKEY_FACEaDOG_FACEaPIG_FACEaFROG_FACEaHAMSTER_FAC
    EaWOLF_FACEaBEAR_FACEaPANDA_FACEbIG_NOSEbAW_PRINTSaCHIPMUNKaEYEScEbARaNOSEaMOUTHaTONGUEaWHITE_
    UP_POINTING_BACKHAND_INDEXgDOWN_POINTING_BACKHAND_INDEXgLEFT_POINTING_BACKHAND_INDEXgRIGHT_POI
    NTING_BACKHAND_INDEXaFISTED_HAND_SIGNaWAVING_HAND_SIGNaOK_HAND_SIGNaTHUMBS_UP_SIGNhDOWN_SIGNaC
    LAPPING_HANDS_SIGNaOPEN_HANDS_SIGNaCROWNaWOMANS_HATaEYEGLASSESaNECKTIEaT-SHIRTaJEANSaDRESSaKIM
    ONOaBIKINIaWOMANS_CLOTHESaPURSEaHANDBAGaPOUCHaMANS_SHOEaATHLETIC_SHOEaHIGH-HEELED_SHOEaWOMANS_
    SANDALhBOOTSaFOOTPRINTSaBUST_IN_SILHOUETTEeS_IN_SILHOUETTEbOYaGIRLaMANaWOMANaFAMILYaMAN_AND_WO
    MAN_HOLDING_HANDSaTWO_MEN_HOLDING_HANDSeWOMEN_HOLDING_HANDSaPOLICE_OFFICERaWOMAN_WITH_BUNNY_EA
    RSaBRIDE_WITH_VEILaPERSON_WITH_BLOND_HAIRaMAN_WITH_GUA_PI_MAOjTURBANaOLDER_MANgWOMANaBABYaCONS
    TRUCTION_WORKERaPRINCESSaJAPANESE_OGREjGOBLINaGHOSTaBABY_ANGELaEXTRATERRESTRIAL_ALIENaALIEN_MO
    NSTERaIMPaSKULLaINFORMATION_DESK_PERSONaGUARDSMANaDANCERaLIPSTICKaNAIL_POLISHaFACE_MASSAGEaHAI
    RCUTaBARBER_POLEaSYRINGEaPILLaKISS_MARKaLOVE_LETTERaRINGaGEM_STONEaKISSaBOUQUETaCOUPLE_WITH_HE
    ARTaWEDDINGaBEATING_HEARTbROKEN_HEARTaTWO_HEARTSaSPARKLING_HEARTaGROWING_HEARTaHEART_WITH_ARRO
    WaBLUE_HEARTaGREEN_HEARTaYELLOW_HEARTaPURPLE_HEARTaHEART_WITH_RIBBONaREVOLVING_HEARTSaHEART_DE
    CORATIONaDIAMOND_SHAPE_WITH_A_DOT_INSIDEaELECTRIC_LIGHT_BULBaANGER_SYMBOLaBOMBaSLEEPING_SYMBOL
    aCOLLISION_SYMBOLaSPLASHING_SWEAT_SYMBOLaDROPLETbASH_SYMBOLaPILE_OF_POOaFLEXED_BICEPSaDIZZY_SY
    MBOLaSPEECH_BALLOONaTHOUGHT_BALLOONaWHITE_FLOWERaHUNDRED_POINTS_SYMBOLaMONEY_BAGaCURRENCY_EXCH
    ANGEaHEAVY_DOLLAR_SIGNaCREDIT_CARDaBANKNOTE_WITH_YEN_SIGNoDOLLAR_SIGNoEURO_SIGNoPOUND_SIGNaMON
    EY_WITH_WINGSaCHART_WITH_UPWARDS_TREND_AND_YEN_SIGNaSEATaPERSONAL_COMPUTERaBRIEFCASEaMINIDISCa
    FLOPPY_DISKaOPTICAL_DISCaDVDaFILE_FOLDERaOPEN_FILE_FOLDERaPAGE_WITH_CURLfFACING_UPaCALENDARaTE
    AR-OFF_CALENDARaCARD_INDEXbHART_WITH_UPWARDS_TRENDlDOWNWARDS_TRENDaBAR_CHARTaCLIPBOARDaPUSHPIN
    aROUND_PUSHPINaPAPERCLIPaSTRAIGHT_RULERaTRIANGULAR_RULERaBOOKMARK_TABSaLEDGERaNOTEBOOKi_WITH_D
    ECORATIVE_COVERaCLOSED_BOOKaOPEN_BOOKaGREEN_BOOKaBLUE_BOOKaORANGE_BOOKaBOOKSaNAME_BADGEaSCROLL
    aMEMOaTELEPHONE_RECEIVERaPAGERaFAX_MACHINEaSATELLITE_ANTENNAaPUBLIC_ADDRESS_LOUDSPEAKERaCHEERI
    NG_MEGAPHONEaOUTBOX_TRAYaINBOX_TRAYaPACKAGEaE-MAIL_SYMBOLaINCOMING_ENVELOPEaENVELOPE_WITH_DOWN
    WARDS_ARROW_ABOVEaCLOSED_MAILBOX_WITH_LOWERED_FLAGuRAISED_FLAGaOPEN_MAILBOX_WITH_RAISED_FLAGsL
    OWERED_FLAGaPOSTBOXeAL_HORNaNEWSPAPERaMOBILE_PHONEm_WITH_RIGHTWARDS_ARROW_AT_LEFTaVIBRATION_MO
    DEaMOBILE_PHONE_OFFaNO_MOBILE_PHONESaANTENNA_WITH_BARSaCAMERAg_WITH_FLASHaVIDEO_CAMERAaTELEVIS
    IONaRADIOaVIDEOCASSETTEaFILM_PROJECTORaPORTABLE_STEREObRAYER_BEADSaTWISTED_RIGHTWARDS_ARROWSaC
    LOCKWISE_RIGHTWARDS_AND_LEFTWARDS_OPEN_CIRCLE_ARROWSzzd_WITH_CIRCLED_ONE_OVERLAYkDOWNWARDS_AND
    _UPWARDS_OPEN_CIRCLE_ARROWSaANTICLOCKWISE_DOWNWARDS_AND_UPWARDS_OPEN_CIRCLE_ARROWSaLOW_BRIGHTN
    ESS_SYMBOLaHIGH_BRIGHTNESS_SYMBOLaSPEAKER_WITH_CANCELLATION_STROKEgRh_WITH_ONE_SOUND_WAVEnTHRE
    E_SOUND_WAVESaBATTERYaELECTRIC_PLUGaLEFT-POINTING_MAGNIFYING_GLASSaRIGHT-POINTING_MAGNIFYING_G
    LASSaLOCK_WITH_INK_PENaCLOSED_LOCK_WITH_KEYaKEYaLOCKaOPEN_LOCKaBELLe_WITH_CANCELLATION_STROKEb
    OOKMARKaLINK_SYMBOLaRADIO_BUTTONaBACK_WITH_LEFTWARDS_ARROW_ABOVEaEND_WITH_LEFTWARDS_ARROW_ABOV
    EaON_WITH_EXCLAMATION_MARK_WITH_LEFT_RIGHT_ARROW_ABOVEaSOON_WITH_RIGHTWARDS_ARROW_ABOVEaTOP_WI
    TH_UPWARDS_ARROW_ABOVEaNO_ONE_UNDER_EIGHTEEN_SYMBOLaKEYCAP_TENaINPUT_SYMBOL_FOR_LATIN_CAPITAL_
    LETTERSxSMALL_LETTERSrNUMBERSrSYMBOLSrLATIN_LETTERSaFIREaELECTRIC_TORCHaWRENCHaHAMMERaNUT_AND_
    BOLTaHOCHOaPISTOLaMICROSCOPEaTELESCOPEaCRYSTAL_BALLaSIX_POINTED_STAR_WITH_MIDDLE_DOTaJAPANESE_
    SYMBOL_FOR_BEGINNERaTRIDENT_EMBLEMaBLACK_SQUARE_BUTTONaWHITE_SQUARE_BUTTONaLARGE_RED_CIRCLEgBL
    UE_CIRCLEgORANGE_DIAMONDgBLUE_DIAMONDaSMALL_ORANGE_DIAMONDgBLUE_DIAMONDaUP-POINTING_RED_TRIANG
    LEaDOWN-POINTING_RED_TRIANGLEaUP-POINTING_SMALL_RED_TRIANGLEaDOWN-POINTING_SMALL_RED_TRIANGLEa
    LOWER_RIGHT_SHADOWED_WHITE_CIRCLEaUPPER_RIGHT_SHADOWED_WHITE_CIRCLEaCIRCLED_CROSS_POMMEEbROSS_
    POMMEE_WITH_HALF-CIRCLE_BELOWlEaNOTCHED_LEFT_SEMICIRCLE_WITH_THREE_DOTSiRIGHT_SEMICIRCLE_WITH_
    THREE_DOTSaSYMBOL_FOR_MARKS_CHAPTERaWHITE_LATIN_CROSSaHEAVY_LATIN_CROSSaCELTIC_CROSSaOM_SYMBOL
    aDOVE_OF_PEACEaKAABAaMOSQUEaSYNAGOGUEaMENORAH_WITH_NINE_BRANCHESaBOWL_OF_HYGIEIAaCLOCK_FACE_ON
    E_OCLOCKlTWO_OCLOCKmHREE_OCLOCKlFOUR_OCLOCKmIVE_OCLOCKlSIX_OCLOCKmEVEN_OCLOCKlEIGHT_OCLOCKlNIN
    E_OCLOCKlTEN_OCLOCKlELEVEN_OCLOCKlTWELVE_OCLOCKlONE-THIRTYlTWO-THIRTYmHREE-THIRTYlFOUR-THIRTYm
    IVE-THIRTYlSIX-THIRTYmEVEN-THIRTYlEIGHT-THIRTYlNINE-THIRTYlTEN-THIRTYlELEVEN-THIRTYlTWELVE-THI
    RTYaRIGHT_SPEAKERn_WITH_ONE_SOUND_WAVEtTHREE_SOUND_WAVESaBULLHORNi_WITH_SOUND_WAVESaRINGING_BE
    LLaBOOKaCANDLEaMANTELPIECE_CLOCKaBLACK_SKULL_AND_CROSSBONESaNO_PIRACYaHOLEaMAN_IN_BUSINESS_SUI
    T_LEVITATINGaSLEUTH_OR_SPYaDARK_SUNGLASSESaSPIDERg_WEBaJOYSTICKaMAN_DANCINGaLEFT_HAND_TELEPHON
    E_RECEIVERaTELEPHONE_RECEIVER_WITH_PAGEaRIGHT_HAND_TELEPHONE_RECEIVERaWHITE_TOUCHTONE_TELEPHON
    EaBLACK_TOUCHTONE_TELEPHONEaTELEPHONE_ON_TOP_OF_MODEMaCLAMSHELL_MOBILE_PHONEaBACK_OF_ENVELOPEa
    STAMPED_ENVELOPEaENVELOPE_WITH_LIGHTNINGaFLYING_ENVELOPEaPEN_OVER_STAMPED_ENVELOPEaLINKED_PAPE
    RCLIPSaBLACK_PUSHPINaLOWER_LEFT_PENCILlBALLPOINT_PENlFOUNTAIN_PENlPAINTBRUSHlCRAYONbEFT_WRITIN
    G_HANDaTURNED_OK_HAND_SIGNaRAISED_HAND_WITH_FINGERS_SPLAYEDbEVERSED_RAISED_HAND_WITH_FINGERS_S
    PLAYEDjTHUMBS_UP_SIGNqDOWN_SIGNjVICTORY_HANDjHAND_WITH_MIDDLE_FINGER_EXTENDEDbAISED_HAND_WITH_
    PART_BETWEEN_MIDDLE_AND_RING_FINGERSaWHITE_DOWN_POINTING_LEFT_HAND_INDEXaSIDEWAYS_WHITE_LEFT_P
    OINTING_INDEXpRIGHT_POINTING_INDEXjBLACK_LEFT_POINTING_INDEXpRIGHT_POINTING_INDEXaBLACK_LEFT_P
    OINTING_BACKHAND_INDEXgRIGHT_POINTING_BACKHAND_INDEXaSIDEWAYS_WHITE_UP_POINTING_INDEXpDOWN_POI
    NTING_INDEXjBLACK_UP_POINTING_INDEXpDOWN_POINTING_INDEXaBLACK_UP_POINTING_BACKHAND_INDEXgDOWN_
    POINTING_BACKHAND_INDEXgHEARTaDESKTOP_COMPUTERaKEYBOARD_AND_MOUSEaTHREE_NETWORKED_COMPUTERSaPR
    INTERbOCKET_CALCULATORaBLACK_HARD_SHELL_FLOPPY_DISKaWHITE_HARD_SHELL_FLOPPY_DISKaSOFT_SHELL_FL
    OPPY_DISKaTAPE_CARTRIDGEaWIRED_KEYBOARDaONE_BUTTON_MOUSEaTWO_BUTTON_MOUSEbHREE_BUTTON_MOUSEbRA
    CKBALLaOLD_PERSONAL_COMPUTERaHARD_DISKaSCREENaPRINTER_ICONaFAX_ICONaOPTICAL_DISC_ICONaDOCUMENT
    _WITH_TEXTs_AND_PICTUREoPICTUREaFRAME_WITH_PICTURElTILESlAN_XaBLACK_FOLDERaFOLDERaOPEN_FOLDERa
    CARD_INDEX_DIVIDERSfFILE_BOXaFILE_CABINETaEMPTY_NOTEk_PAGEnDaNOTEe_PAGEhDaEMPTY_DOCUMENTgPAGEk
    SaDOCUMENTaPAGEeSaWASTEBASKETaSPIRAL_NOTE_PADhCALENDAR_PADaDESKTOP_WINDOWaMINIMIZEbAXIMIZEaOVE
    RLAPaCLOCKWISE_RIGHT_AND_LEFT_SEMICIRCLE_ARROWSbANCELLATION_XaINCREASE_FONT_SIZE_SYMBOLaDECREA
    SE_FONT_SIZE_SYMBOLaCOMPRESSIONaOLD_KEYaROLLED-UP_NEWSPAPERaPAGE_WITH_CIRCLED_TEXTaSTOCK_CHART
    aDAGGER_KNIFEaLIPSaSPEAKING_HEAD_IN_SILHOUETTEaTHREE_RAYS_ABOVElBELOWlLEFTlRIGHTaLEFT_SPEECH_B
    UBBLEaRIGHT_SPEECH_BUBBLEaTWO_SPEECH_BUBBLESbHREE_SPEECH_BUBBLESaLEFT_THOUGHT_BUBBLEaRIGHT_THO
    UGHT_BUBBLEaLEFT_ANGER_BUBBLEaRIGHT_ANGER_BUBBLEaMOOD_BUBBLEaLIGHTNING_MOOD_BUBBLEnDaBALLOT_BO
    X_WITH_BALLOThSCRIPT_XhBOX_WITH_SCRIPT_XjLD_SCRIPT_XjX_WITH_BOLD_SCRIPT_XaLIGHT_CHECK_MARKaBAL
    LOT_BOX_WITH_BOLD_CHECKaWORLD_MAPaMOUNT_FUJIaTOKYO_TOWERaSTATUE_OF_LIBERTYbILHOUETTE_OF_JAPANa
    MOYAIaGRINNING_FACEn_WITH_SMILING_EYESaFACE_WITH_TEARS_OF_JOYaSMILING_FACE_WITH_OPEN_MOUTHzd_A
    ND_SMILING_EYESziCOLD_SWEATziTIGHTLY-CLOSED_EYESsHALOtORNSaWINKING_FACEaSMILING_FACE_WITH_SMIL
    ING_EYESaFACE_SAVOURING_DELICIOUS_FOODaRELIEVED_FACEaSMILING_FACE_WITH_HEART-SHAPED_EYESsSUNGL
    ASSESdRKING_FACEaNEUTRAL_FACEaEXPRESSIONLESS_FACEaUNAMUSED_FACEaFACE_WITH_COLD_SWEATaPENSIVE_F
    ACEaCONFUSED_FACEeOUNDED_FACEaKISSING_FACEaFACE_THROWING_A_KISSaKISSING_FACE_WITH_SMILING_EYES
    sCLOSED_EYESaFACE_WITH_STUCK-OUT_TONGUEzb_AND_WINKING_EYEzgTIGHTLY-CLOSED_EYESaDISAPPOINTED_FA
    CEaWORRIED_FACEaANGRY_FACEaPOUTING_FACEaCRYING_FACEaPERSEVERING_FACEaFACE_WITH_LOOK_OF_TRIUMPH
    aDISAPPOINTED_BUT_RELIEVED_FACEaFROWNING_FACE_WITH_OPEN_MOUTHaANGUISHED_FACEaFEARFUL_FACEaWEAR
    Y_FACEaSLEEPY_FACEaTIRED_FACEaGRIMACING_FACEaLOUDLY_CRYING_FACEaFACE_WITH_OPEN_MOUTHaHUSHED_FA
    CEaFACE_WITH_OPEN_MOUTH_AND_COLD_SWEATfSCREAMING_IN_FEARaASTONISHED_FACEaFLUSHED_FACEaSLEEPING
    _FACEaDIZZY_FACEaFACE_WITHOUT_MOUTHj_MEDICAL_MASKaGRINNING_CAT_FACE_WITH_SMILING_EYESaCAT_FACE
    _WITH_TEARS_OF_JOYaSMILING_CAT_FACE_WITH_OPEN_MOUTHwHEART-SHAPED_EYESaCAT_FACE_WITH_WRY_SMILEa
    KISSING_CAT_FACE_WITH_CLOSED_EYESaPOUTING_CAT_FACEaCRYING_CAT_FACEaWEARY_CAT_FACEaSLIGHTLY_FRO
    WNING_FACEjSMILING_FACEaUPSIDE-DOWN_FACEaFACE_WITH_ROLLING_EYESkNO_GOOD_GESTUREkOK_GESTUREaPER
    SON_BOWING_DEEPLYaSEE-NO-EVIL_MONKEYaHEAR-NO-EVIL_MONKEYaSPEAK-NO-EVIL_MONKEYaHAPPY_PERSON_RAI
    SING_ONE_HANDaPERSON_RAISING_BOTH_HANDS_IN_CELEBRATIONhFROWNINGhWITH_POUTING_FACEmFOLDED_HANDS
    aNORTH_WEST_POINTING_LEAFaSOUTH_WEST_POINTING_LEAFaNORTH_EAST_POINTING_LEAFaSOUTH_EAST_POINTIN
    G_LEAFaTURNED_NORTH_WEST_POINTING_LEAFhSOUTH_WEST_POINTING_LEAFhNORTH_EAST_POINTING_LEAFhSOUTH
    _EAST_POINTING_LEAFaNORTH_WEST_POINTING_VINE_LEAFaSOUTH_WEST_POINTING_VINE_LEAFaNORTH_EAST_POI
    NTING_VINE_LEAFaSOUTH_EAST_POINTING_VINE_LEAFaHEAVY_NORTH_WEST_POINTING_VINE_LEAFgSOUTH_WEST_P
    OINTING_VINE_LEAFgNORTH_EAST_POINTING_VINE_LEAFgSOUTH_EAST_POINTING_VINE_LEAFaNORTH_WEST_POINT
    ING_BUDaSOUTH_WEST_POINTING_BUDaNORTH_EAST_POINTING_BUDaSOUTH_EAST_POINTING_BUDaHEAVY_NORTH_WE
    ST_POINTING_BUDgSOUTH_WEST_POINTING_BUDgNORTH_EAST_POINTING_BUDgSOUTH_EAST_POINTING_BUDbOLLOW_
    QUILT_SQUARE_ORNAMENTzd_IN_BLACK_SQUAREaSOLID_QUILT_SQUARE_ORNAMENTzc_IN_BLACK_SQUAREaLEFTWARD
    S_ROCKETaUPWARDS_ROCKETaRIGHTWARDS_ROCKETaDOWNWARDS_ROCKETaSCRIPT_LIGATURE_ET_ORNAMENTaHEAVY_S
    CRIPT_LIGATURE_ET_ORNAMENTaLIGATURE_OPEN_ET_ORNAMENTaHEAVY_LIGATURE_OPEN_ET_ORNAMENTgAMPERSAND
    _ORNAMENTaSWASH_AMPERSAND_ORNAMENTbANS-SERIF_HEAVY_DOUBLE_TURNED_COMMA_QUOTATION_MARK_ORNAMENT
    yCOMMA_QUOTATION_MARK_ORNAMENTrLOW_DOUBLE_COMMA_QUOTATION_MARK_ORNAMENTaHEAVY_INTERROBANG_ORNA
    MENTaSANS-SERIF_INTERROBANG_ORNAMENTaHEAVY_SANS-SERIF_INTERROBANG_ORNAMENTaVERY_HEAVY_SOLIDUSl
    REVERSE_SOLIDUSaCHECKER_BOARDaREVERSE_CHECKER_BOARDbOCKETaHELICOPTERaSTEAM_LOCOMOTIVEaRAILWAY_
    CARaHIGH-SPEED_TRAINq_WITH_BULLET_NOSEaTRAINaMETROaLIGHT_RAILaSTATIONaTRAMe_CARaBUSaONCOMING_B
    USaTROLLEYBUSaBUS_STOPaMINIBUSaAMBULANCEaFIRE_ENGINEaPOLICE_CARaONCOMING_POLICE_CARaTAXIaONCOM
    ING_TAXIaAUTOMOBILEaONCOMING_AUTOMOBILEaRECREATIONAL_VEHICLEaDELIVERY_TRUCKaARTICULATED_LORRYa
    TRACTORaMONORAILcUNTAIN_RAILWAYaSUSPENSION_RAILWAYaMOUNTAIN_CABLEWAYaAERIAL_TRAMWAYaSHIPaROWBO
    ATaSPEEDBOATaHORIZONTAL_TRAFFIC_LIGHTaVERTICAL_TRAFFIC_LIGHTaCONSTRUCTION_SIGNaPOLICE_CARS_REV
    OLVING_LIGHTaTRIANGULAR_FLAG_ON_POSTaDOORaNO_ENTRY_SIGNaSMOKING_SYMBOLaNO_SMOKING_SYMBOLaPUT_L
    ITTER_IN_ITS_PLACE_SYMBOLaDO_NOT_LITTER_SYMBOLaPOTABLE_WATER_SYMBOLaNON-POTABLE_WATER_SYMBOLaB
    ICYCLEaNO_BICYCLESaBICYCLISTaMOUNTAIN_BICYCLISTaPEDESTRIANaNO_PEDESTRIANSaCHILDREN_CROSSINGaME
    NS_SYMBOLaWOMENS_SYMBOLaRESTROOMaBABY_SYMBOLaTOILETaWATER_CLOSETaSHOWERaBATHeTUBaPASSPORT_CONT
    ROLaCUSTOMSaBAGGAGE_CLAIMaLEFT_LUGGAGEaTRIANGLE_WITH_ROUNDED_CORNERSaPROHIBITED_SIGNaCIRCLED_I
    NFORMATION_SOURCEaBOYS_SYMBOLaGIRLS_SYMBOLaCOUCH_AND_LAMPaSLEEPING_ACCOMMODATIONbHOPPING_BAGSa
    BELLHOP_BELLcDaPLACE_OF_WORSHIPaOCTAGONAL_SIGNaSHOPPING_TROLLEYbTUPAaPAGODAaHINDU_TEMPLEbUTaEL
    EVATOR=1F6DDaPLAYGROUND_SLIDEaWHEELaRING_BUOYaHAMMER_AND_WRENCHaSHIELDaOIL_DRUMaMOTORWAYaRAILW
    AY_TRACKaMOTOR_BOATaUP-POINTING_MILITARY_AIRPLANEmAIRPLANEmSMALL_AIRPLANEaSMALL_AIRPLANEaNORTH
    EAST-POINTING_AIRPLANEaAIRPLANE_DEPARTUREjARRIVING=1F6F0aSATELLITEaONCOMING_FIRE_ENGINEaDIESEL
    _LOCOMOTIVEaPASSENGER_SHIPaSCOOTERaMOTOR_SCOOTERaCANOEaSLEDaFLYING_SAUCERaSKATEBOARDaAUTO_RICK
    SHAWaPICKUP_TRUCKaROLLER_SKATE=1F700aALCHEMICAL_SYMBOL_FOR_QUINTESSENCEwAIRwFIREwEARTHwWATERwA
    QUAFORTISzb_REGIAzh-2zcVITAEzh-2wVINEGARze-2zf3wSULFURwPHILOSOPHERS_SULFURwBLACK_SULFURwMERCUR
    Y_SUBLIMATEzo-2zp3wCINNABARwSALTwNITREwVITRIOLze-2wROCK_SALTzg-2wGOLDwSILVERwIRON_OREzf-2wCROC
    US_OF_IRONwREGULUS_OF_IRONwCOPPER_OREwIRON-COPPER_OREwSUBLIMATE_OF_COPPERwCROCUS_OF_COPPERzn-2
    xOPPER_ANTIMONIATEwSALT_OF_COPPER_ANTIMONIATExUBLIMATE_OF_SALT_OF_COPPERwVERDIGRISwTIN_OREwLEA
    D_OREwANTIMONY_OREwSUBLIMATE_OF_ANTIMONYxALT_OF_ANTIMONYxUBLIMATE_OF_SALT_OF_ANTIMONYwVINEGAR_
    OF_ANTIMONYwREGULUS_OF_ANTIMONYzq-2zdSze-2zf3zf4wALKALIzd-2wMARCASITEwSAL-AMMONIACwARSENICwREA
    LGARze-2wAURIPIGMENTwBISMUTH_OREwTARTARzd-2wQUICK_LIMEwBORAXzc-2zd3wALUMwOILwSPIRITwTINCTUREwG
    UMwWAXwPOWDERwCALXwTUTTYwCAPUT_MORTUUMwSCEPTER_OF_JOVEwCADUCEUSwTRIDENTwSTARRED_TRIDENTwLODEST
    ONEwSOAPwURINEwHORSE_DUNGwASHESwPOT_ASHESwBRICKwPOWDERED_BRICKwAMALGAMwSTRATUM_SUPER_STRATUMzs
    -2xUBLIMATIONwPRECIPITATEwDISTILLzSOLVEzf-2wPURIFYyTREFACTIONwCRUCIBLEzf-2zg3zg4zg5wALEMBICwBA
    TH_OF_MARYzfVAPOURSwRETORTwHOURwNIGHTwDAY-NIGHTwMONTHwHALF_DRAMzcOUNCE=1F780aBLACK_LEFT-POINTI
    NG_ISOSCELES_RIGHT_TRIANGLEgUP-POINTING_ISOSCELES_RIGHT_TRIANGLEgRIGHT-POINTING_ISOSCELES_RIGH
    T_TRIANGLEgDOWN-POINTING_ISOSCELES_RIGHT_TRIANGLEgSLIGHTLY_SMALL_CIRCLEaMEDIUM_BOLD_WHITE_CIRC
    LEaBOLD_WHITE_CIRCLEaHEAVY_WHITE_CIRCLEaVERY_HEAVY_WHITE_CIRCLEaEXTREMELY_HEAVY_WHITE_CIRCLEaW
    HITE_CIRCLE_CONTAINING_BLACK_SMALL_CIRCLEaROUND_TARGETaBLACK_TINY_SQUAREgSLIGHTLY_SMALL_SQUARE
    aLIGHT_WHITE_SQUAREaMEDIUM_WHITE_SQUAREaBOLD_WHITE_SQUAREaHEAVY_WHITE_SQUAREaVERY_HEAVY_WHITE_
    SQUAREaEXTREMELY_HEAVY_WHITE_SQUAREaWHITE_SQUARE_CONTAINING_BLACK_VERY_SMALL_SQUAREzfMEDIUM_SQ
    UAREaSQUARE_TARGETaBLACK_TINY_DIAMONDgVERY_SMALL_DIAMONDgMEDIUM_SMALL_DIAMONDaWHITE_DIAMOND_CO
    NTAINING_BLACK_VERY_SMALL_DIAMONDzgMEDIUM_DIAMONDaDIAMOND_TARGETaBLACK_TINY_LOZENGEgVERY_SMALL
    _LOZENGEgMEDIUM_SMALL_LOZENGEaWHITE_LOZENGE_CONTAINING_BLACK_SMALL_LOZENGEaTHIN_GREEK_CROSSaLI
    GHT_GREEK_CROSSaMEDIUM_GREEK_CROSSaBOLD_GREEK_CROSSaVERY_BOLD_GREEK_CROSSfHEAVY_GREEK_CROSSaEX
    TREMELY_HEAVY_GREEK_CROSSaTHIN_SALTIREaLIGHT_SALTIREaMEDIUM_SALTIREaBOLD_SALTIREaHEAVY_SALTIRE
    aVERY_HEAVY_SALTIREaEXTREMELY_HEAVY_SALTIREaLIGHT_FIVE_SPOKED_ASTERISKaMEDIUM_FIVE_SPOKED_ASTE
    RISKaBOLD_FIVE_SPOKED_ASTERISKaHEAVY_FIVE_SPOKED_ASTERISKaVERY_HEAVY_FIVE_SPOKED_ASTERISKaEXTR
    EMELY_HEAVY_FIVE_SPOKED_ASTERISKaLIGHT_SIX_SPOKED_ASTERISKaMEDIUM_SIX_SPOKED_ASTERISKaBOLD_SIX
    _SPOKED_ASTERISKaHEAVY_SIX_SPOKED_ASTERISKaVERY_HEAVY_SIX_SPOKED_ASTERISKaEXTREMELY_HEAVY_SIX_
    SPOKED_ASTERISKaLIGHT_EIGHT_SPOKED_ASTERISKaMEDIUM_EIGHT_SPOKED_ASTERISKaBOLD_EIGHT_SPOKED_AST
    ERISKaHEAVY_EIGHT_SPOKED_ASTERISKaVERY_HEAVY_EIGHT_SPOKED_ASTERISKaLIGHT_THREE_POINTED_BLACK_S
    TARaMEDIUM_THREE_POINTED_BLACK_STARaTHREE_POINTED_BLACK_STARaMEDIUM_THREE_POINTED_PINWHEEL_STA
    RaLIGHT_FOUR_POINTED_BLACK_STARaMEDIUM_FOUR_POINTED_BLACK_STARaFOUR_POINTED_BLACK_STARaMEDIUM_
    FOUR_POINTED_PINWHEEL_STARaREVERSE_LIGHT_FOUR_POINTED_PINWHEEL_STARaLIGHT_FIVE_POINTED_BLACK_S
    TARaHEAVY_FIVE_POINTED_BLACK_STARaMEDIUM_SIX_POINTED_BLACK_STARaHEAVY_SIX_POINTED_BLACK_STARaS
    IX_POINTED_PINWHEEL_STARaMEDIUM_EIGHT_POINTED_BLACK_STARaHEAVY_EIGHT_POINTED_BLACK_STARaVERY_H
    EAVY_EIGHT_POINTED_BLACK_STARaHEAVY_EIGHT_POINTED_PINWHEEL_STARaLIGHT_TWELVE_POINTED_BLACK_STA
    RaHEAVY_TWELVE_POINTED_BLACK_STARvPINWHEEL_STARaCIRCLED_TRIANGLEaNEGATIVE_CIRCLED_TRIANGLEaCIR
    CLED_SQUAREaNEGATIVE_CIRCLED_SQUARE=1F7E0aLARGE_ORANGE_CIRCLEgYELLOW_CIRCLEgGREEN_CIRCLEgPURPL
    E_CIRCLEgBROWN_CIRCLEgRED_SQUAREgBLUE_SQUAREgORANGE_SQUAREgYELLOW_SQUAREgGREEN_SQUAREgPURPLE_S
    QUAREgBROWN_SQUARE=1F7F0aHEAVY_EQUALS_SIGN=1F800aLEFTWARDS_ARROW_WITH_SMALL_TRIANGLE_ARROWHEAD
    aUPWARDS_ARROW_WITH_SMALL_TRIANGLE_ARROWHEADaRIGHTWARDS_ARROW_WITH_SMALL_TRIANGLE_ARROWHEADaDO
    WNWARDS_ARROW_WITH_SMALL_TRIANGLE_ARROWHEADaLEFTWARDS_ARROW_WITH_MEDIUM_TRIANGLE_ARROWHEADaUPW
    ARDS_ARROW_WITH_MEDIUM_TRIANGLE_ARROWHEADaRIGHTWARDS_ARROW_WITH_MEDIUM_TRIANGLE_ARROWHEADaDOWN
    WARDS_ARROW_WITH_MEDIUM_TRIANGLE_ARROWHEADaLEFTWARDS_ARROW_WITH_LARGE_TRIANGLE_ARROWHEADaUPWAR
    DS_ARROW_WITH_LARGE_TRIANGLE_ARROWHEADaRIGHTWARDS_ARROW_WITH_LARGE_TRIANGLE_ARROWHEADaDOWNWARD
    S_ARROW_WITH_LARGE_TRIANGLE_ARROWHEAD=1F810aLEFTWARDS_ARROW_WITH_SMALL_EQUILATERAL_ARROWHEADaU
    PWARDS_ARROW_WITH_SMALL_EQUILATERAL_ARROWHEADaRIGHTWARDS_ARROW_WITH_SMALL_EQUILATERAL_ARROWHEA
    DaDOWNWARDS_ARROW_WITH_SMALL_EQUILATERAL_ARROWHEADaLEFTWARDS_ARROW_WITH_EQUILATERAL_ARROWHEADa
    UPWARDS_ARROW_WITH_EQUILATERAL_ARROWHEADaRIGHTWARDS_ARROW_WITH_EQUILATERAL_ARROWHEADaDOWNWARDS
    _ARROW_WITH_EQUILATERAL_ARROWHEADaHEAVY_LEFTWARDS_ARROW_WITH_EQUILATERAL_ARROWHEADgUPWARDS_ARR
    OW_WITH_EQUILATERAL_ARROWHEADgRIGHTWARDS_ARROW_WITH_EQUILATERAL_ARROWHEADgDOWNWARDS_ARROW_WITH
    _EQUILATERAL_ARROWHEADgLEFTWARDS_ARROW_WITH_LARGE_EQUILATERAL_ARROWHEADgUPWARDS_ARROW_WITH_LAR
    GE_EQUILATERAL_ARROWHEADgRIGHTWARDS_ARROW_WITH_LARGE_EQUILATERAL_ARROWHEADgDOWNWARDS_ARROW_WIT
    H_LARGE_EQUILATERAL_ARROWHEADaLEFTWARDS_TRIANGLE-HEADED_ARROW_WITH_NARROW_SHAFTaUPWARDS_TRIANG
    LE-HEADED_ARROW_WITH_NARROW_SHAFTaRIGHTWARDS_TRIANGLE-HEADED_ARROW_WITH_NARROW_SHAFTaDOWNWARDS
    _TRIANGLE-HEADED_ARROW_WITH_NARROW_SHAFTaLEFTWARDS_TRIANGLE-HEADED_ARROW_WITH_MEDIUM_SHAFTaUPW
    ARDS_TRIANGLE-HEADED_ARROW_WITH_MEDIUM_SHAFTaRIGHTWARDS_TRIANGLE-HEADED_ARROW_WITH_MEDIUM_SHAF
    TaDOWNWARDS_TRIANGLE-HEADED_ARROW_WITH_MEDIUM_SHAFTaLEFTWARDS_TRIANGLE-HEADED_ARROW_WITH_BOLD_
    SHAFTaUPWARDS_TRIANGLE-HEADED_ARROW_WITH_BOLD_SHAFTaRIGHTWARDS_TRIANGLE-HEADED_ARROW_WITH_BOLD
    _SHAFTaDOWNWARDS_TRIANGLE-HEADED_ARROW_WITH_BOLD_SHAFTaLEFTWARDS_TRIANGLE-HEADED_ARROW_WITH_HE
    AVY_SHAFTaUPWARDS_TRIANGLE-HEADED_ARROW_WITH_HEAVY_SHAFTaRIGHTWARDS_TRIANGLE-HEADED_ARROW_WITH
    _HEAVY_SHAFTaDOWNWARDS_TRIANGLE-HEADED_ARROW_WITH_HEAVY_SHAFTaLEFTWARDS_TRIANGLE-HEADED_ARROW_
    WITH_VERY_HEAVY_SHAFTaUPWARDS_TRIANGLE-HEADED_ARROW_WITH_VERY_HEAVY_SHAFTaRIGHTWARDS_TRIANGLE-
    HEADED_ARROW_WITH_VERY_HEAVY_SHAFTaDOWNWARDS_TRIANGLE-HEADED_ARROW_WITH_VERY_HEAVY_SHAFTaLEFTW
    ARDS_FINGER-POST_ARROWaUPWARDS_FINGER-POST_ARROWaRIGHTWARDS_FINGER-POST_ARROWaDOWNWARDS_FINGER
    -POST_ARROWaLEFTWARDS_SQUARED_ARROWaUPWARDS_SQUARED_ARROWaRIGHTWARDS_SQUARED_ARROWaDOWNWARDS_S
    QUARED_ARROWaLEFTWARDS_COMPRESSED_ARROWaUPWARDS_COMPRESSED_ARROWaRIGHTWARDS_COMPRESSED_ARROWaD
    OWNWARDS_COMPRESSED_ARROWaLEFTWARDS_HEAVY_COMPRESSED_ARROWaUPWARDS_HEAVY_COMPRESSED_ARROWaRIGH
    TWARDS_HEAVY_COMPRESSED_ARROWaDOWNWARDS_HEAVY_COMPRESSED_ARROWaLEFTWARDS_HEAVY_ARROWaUPWARDS_H
    EAVY_ARROWaRIGHTWARDS_HEAVY_ARROWaDOWNWARDS_HEAVY_ARROW=1F850aLEFTWARDS_SANS-SERIF_ARROWaUPWAR
    DS_SANS-SERIF_ARROWaRIGHTWARDS_SANS-SERIF_ARROWaDOWNWARDS_SANS-SERIF_ARROWaNORTH_WEST_SANS-SER
    IF_ARROWgEAST_SANS-SERIF_ARROWaSOUTH_EAST_SANS-SERIF_ARROWgWEST_SANS-SERIF_ARROWaLEFT_RIGHT_SA
    NS-SERIF_ARROWaUP_DOWN_SANS-SERIF_ARROW=1F860aWIDE-HEADED_LEFTWARDS_LIGHT_BARB_ARROWmUPWARDS_L
    IGHT_BARB_ARROWmRIGHTWARDS_LIGHT_BARB_ARROWmDOWNWARDS_LIGHT_BARB_ARROWmNORTH_WEST_LIGHT_BARB_A
    RROWsEAST_LIGHT_BARB_ARROWmSOUTH_EAST_LIGHT_BARB_ARROWsWEST_LIGHT_BARB_ARROWmLEFTWARDS_BARB_AR
    ROWmUPWARDS_BARB_ARROWmRIGHTWARDS_BARB_ARROWmDOWNWARDS_BARB_ARROWmNORTH_WEST_BARB_ARROWsEAST_B
    ARB_ARROWmSOUTH_EAST_BARB_ARROWsWEST_BARB_ARROWmLEFTWARDS_MEDIUM_BARB_ARROWmUPWARDS_MEDIUM_BAR
    B_ARROWmRIGHTWARDS_MEDIUM_BARB_ARROWmDOWNWARDS_MEDIUM_BARB_ARROWmNORTH_WEST_MEDIUM_BARB_ARROWs
    EAST_MEDIUM_BARB_ARROWmSOUTH_EAST_MEDIUM_BARB_ARROWsWEST_MEDIUM_BARB_ARROWmLEFTWARDS_HEAVY_BAR
    B_ARROWmUPWARDS_HEAVY_BARB_ARROWmRIGHTWARDS_HEAVY_BARB_ARROWmDOWNWARDS_HEAVY_BARB_ARROWmNORTH_
    WEST_HEAVY_BARB_ARROWsEAST_HEAVY_BARB_ARROWmSOUTH_EAST_HEAVY_BARB_ARROWsWEST_HEAVY_BARB_ARROWm
    LEFTWARDS_VERY_HEAVY_BARB_ARROWmUPWARDS_VERY_HEAVY_BARB_ARROWmRIGHTWARDS_VERY_HEAVY_BARB_ARROW
    mDOWNWARDS_VERY_HEAVY_BARB_ARROWmNORTH_WEST_VERY_HEAVY_BARB_ARROWsEAST_VERY_HEAVY_BARB_ARROWmS
    OUTH_EAST_VERY_HEAVY_BARB_ARROWsWEST_VERY_HEAVY_BARB_ARROW=1F890aLEFTWARDS_TRIANGLE_ARROWHEADa
    UPWARDS_TRIANGLE_ARROWHEADaRIGHTWARDS_TRIANGLE_ARROWHEADaDOWNWARDS_TRIANGLE_ARROWHEADaLEFTWARD
    S_WHITE_ARROW_WITHIN_TRIANGLE_ARROWHEADaUPWARDS_WHITE_ARROW_WITHIN_TRIANGLE_ARROWHEADaRIGHTWAR
    DS_WHITE_ARROW_WITHIN_TRIANGLE_ARROWHEADaDOWNWARDS_WHITE_ARROW_WITHIN_TRIANGLE_ARROWHEADaLEFTW
    ARDS_ARROW_WITH_NOTCHED_TAILaUPWARDS_ARROW_WITH_NOTCHED_TAILaRIGHTWARDS_ARROW_WITH_NOTCHED_TAI
    LaDOWNWARDS_ARROW_WITH_NOTCHED_TAILaHEAVY_ARROW_SHAFT_WIDTH_ONEyTWO_THIRDSyONE_HALFzdTHIRDaLEF
    TWARDS_BOTTOM-SHADED_WHITE_ARROWaRIGHTWARDS_BOTTOM_SHADED_WHITE_ARROWaLEFTWARDS_TOP_SHADED_WHI
    TE_ARROWaRIGHTWARDS_TOP_SHADED_WHITE_ARROWaLEFTWARDS_LEFT-SHADED_WHITE_ARROWaRIGHTWARDS_RIGHT-
    SHADED_WHITE_ARROWaLEFTWARDS_RIGHT-SHADED_WHITE_ARROWaRIGHTWARDS_LEFT-SHADED_WHITE_ARROWaLEFTW
    ARDS_BACK-TILTED_SHADOWED_WHITE_ARROWaRIGHTWARDS_BACK-TILTED_SHADOWED_WHITE_ARROWaLEFTWARDS_FR
    ONT-TILTED_SHADOWED_WHITE_ARROWaRIGHTWARDS_FRONT-TILTED_SHADOWED_WHITE_ARROWaWHITE_ARROW_SHAFT
    _WIDTH_ONEyTWO_THIRDS=1F8B0aARROW_POINTING_UPWARDS_THEN_NORTH_WESTpRIGHTWARDS_THEN_CURVING_SOU
    TH_WEST=1F900aCIRCLED_CROSS_FORMEE_WITH_FOUR_DOTSzbTWO_DOTStEaLEFT_HALF_CIRCLE_WITH_FOUR_DOTSw
    THREE_DOTSxWO_DOTSwDOTpEaDOWNWARD_FACING_HOOKqNOTCHED_HOOKqHOOK_WITH_DOTqNOTCHED_HOOK_WITH_DOT
    aPINCHED_FINGERSaWHITE_HEARTaBROWN_HEARTaPINCHING_HANDaZIPPER-MOUTH_FACEaMONEY-MOUTH_FACEaFACE
    _WITH_THERMOMETERaNERD_FACEaTHINKING_FACEaFACE_WITH_HEAD-BANDAGEaROBOT_FACEaHUGGING_FACEaSIGN_
    OF_THE_HORNSaCALL_ME_HANDaRAISED_BACK_OF_HANDaLEFT-FACING_FISTaRIGHT-FACING_FISTaHANDSHAKEe_WI
    TH_INDEX_AND_MIDDLE_FINGERS_CROSSEDaI_LOVE_YOU_HAND_SIGNaFACE_WITH_COWBOY_HATaCLOWN_FACEaNAUSE
    ATED_FACEaROLLING_ON_THE_FLOOR_LAUGHINGaDROOLING_FACEaLYING_FACEaFACE_PALMaSNEEZING_FACEaFACE_
    WITH_ONE_EYEBROW_RAISEDaGRINNING_FACE_WITH_STAR_EYEStONE_LARGE_AND_ONE_SMALL_EYEaFACE_WITH_FIN
    GER_COVERING_CLOSED_LIPSaSERIOUS_FACE_WITH_SYMBOLS_COVERING_MOUTHbMILING_FACE_WITH_SMILING_EYE
    S_AND_HAND_COVERING_MOUTHaFACE_WITH_OPEN_MOUTH_VOMITINGaSHOCKED_FACE_WITH_EXPLODING_HEADaPREGN
    ANT_WOMANaBREAST-FEEDINGaPALMS_UP_TOGETHERaSELFIEaPRINCEaMAN_IN_TUXEDObOTHER_CHRISTMASaSHRUGaP
    ERSON_DOING_CARTWHEELaJUGGLINGaFENCERaMODERN_PENTATHLONaWRESTLERSbATER_POLOaHANDBALLaDIVING_MA
    SKaWILTED_FLOWERaDRUM_WITH_DRUMSTICKSaCLINKING_GLASSESaTUMBLER_GLASSaSPOONaGOAL_NETaRIFLEaFIRS
    T_PLACE_MEDALaSECOND_PLACE_MEDALaTHIRD_PLACE_MEDALaBOXING_GLOVEaMARTIAL_ARTS_UNIFORMaCURLING_S
    TONEaLACROSSE_STICK_AND_BALLaSOFTBALLaFLYING_DISCaCROISSANTaAVOCADOaCUCUMBERaBACONaPOTATOaCARR
    OTaBAGUETTE_BREADaGREEN_SALADaSHALLOW_PAN_OF_FOODbTUFFED_FLATBREADaEGGaGLASS_OF_MILKaPEANUTSaK
    IWIFRUITaPANCAKESaDUMPLINGaFORTUNE_COOKIEaTAKEOUT_BOXaCHOPSTICKSaBOWL_WITH_SPOONaCUP_WITH_STRA
    WbOCONUTaBROCCOLIaPIEbRETZELaCUT_OF_MEATaSANDWICHaCANNED_FOODaLEAFY_GREENaMANGObOON_CAKEaBAGEL
    aSMILING_FACE_WITH_SMILING_EYES_AND_THREE_HEARTSaYAWNING_FACEaSMILING_FACE_WITH_TEARaFACE_WITH
    _PARTY_HORN_AND_PARTY_HATkUNEVEN_EYES_AND_WAVY_MOUTHaOVERHEATED_FACEaFREEZING_FACEaNINJAaDISGU
    ISED_FACEaFACE_HOLDING_BACK_TEARSfWITH_PLEADING_EYESaSARIaLAB_COATaGOGGLESaHIKING_BOOTaFLAT_SH
    OEaCRABaLION_FACEaSCORPIONaTURKEYaUNICORN_FACEaEAGLEaDUCKaBATaSHARKaOWLaFOX_FACEaBUTTERFLYaDEE
    RaGORILLAaLIZARDaRHINOCEROSaSHRIMPbQUIDaGIRAFFE_FACEaZEBRA_FACEaHEDGEHOGaSAUROPODaT-REXaCRICKE
    TaKANGAROOaLLAMAaPEACOCKaHIPPOPOTAMUSaPARROTaRACCOONaLOBSTERaMOSQUITObICROBEaBADGERaSWANaMAMMO
    THaDODOaSLOTHaOTTERbRANGUTANaSKUNKaFLAMINGOaOYSTERaBEAVERbISONaSEALaGUIDE_DOGaPROBING_CANEaEMO
    JI_COMPONENT_RED_HAIRqCURLY_HAIRqBALDqWHITE_HAIRaBONEaLEGaFOOTaTOOTHaSUPERHEROfVILLAINbAFETY_V
    ESTaEAR_WITH_HEARING_AIDaMOTORIZED_WHEELCHAIRbANUAL_WHEELCHAIRbECHANICAL_ARMlLEGaCHEESE_WEDGEb
    UPCAKEaSALT_SHAKERaBEVERAGE_BOXaGARLICaONIONaFALAFELaWAFFLEaBUTTERaMATE_DRINKaICE_CUBEaBUBBLE_
    TEAaTROLLaSTANDING_PERSONaKNEELING_PERSONaDEAF_PERSONaFACE_WITH_MONOCLEaADULTaCHILDaOLDER_ADUL
    TaBEARDED_PERSONaPERSON_WITH_HEADSCARFhIN_STEAMY_ROOMhCLIMBINGhIN_LOTUS_POSITIONaMAGEaFAIRYaVA
    MPIREaMERPERSONaELFaGENIEaZOMBIEaBRAINaORANGE_HEARTaBILLED_CAPaSCARFaGLOVESaCOATaSOCKSaRED_GIF
    T_ENVELOPEaFIRECRACKERaJIGSAW_PUZZLE_PIECEaTEST_TUBEaPETRI_DISHaDNA_DOUBLE_HELIXaCOMPASSaABACU
    SaFIRE_EXTINGUISHERaTOOLBOXaBRICKaMAGNETaLUGGAGEbOTION_BOTTLEaSPOOL_OF_THREADaBALL_OF_YARNaSAF
    ETY_PINaTEDDY_BEARaBROOMbASKETaROLL_OF_PAPERaBAR_OF_SOAPaSPONGEaRECEIPTaNAZAR_AMULETbEUTRAL_CH
    ESS_KINGoQUEENoROOKoBISHOPoKNIGHToPAWNaWHITE_CHESS_KNIGHT_ROTATED_FORTY-FIVE_DEGREESaBLACK_CHE
    SS_KNIGHT_ROTATED_FORTY-FIVE_DEGREESaNEUTRAL_CHESS_KNIGHT_ROTATED_FORTY-FIVE_DEGREESaWHITE_CHE
    SS_KING_ROTATED_NINETY_DEGREESmQUEEN_ROTATED_NINETY_DEGREESmROOK_ROTATED_NINETY_DEGREESmBISHOP
    _ROTATED_NINETY_DEGREESmKNIGHT_ROTATED_NINETY_DEGREESmPAWN_ROTATED_NINETY_DEGREESaBLACK_CHESS_
    KING_ROTATED_NINETY_DEGREESmQUEEN_ROTATED_NINETY_DEGREESmROOK_ROTATED_NINETY_DEGREESmBISHOP_RO
    TATED_NINETY_DEGREESmKNIGHT_ROTATED_NINETY_DEGREESmPAWN_ROTATED_NINETY_DEGREESaNEUTRAL_CHESS_K
    ING_ROTATED_NINETY_DEGREESoQUEEN_ROTATED_NINETY_DEGREESoROOK_ROTATED_NINETY_DEGREESoBISHOP_ROT
    ATED_NINETY_DEGREESoKNIGHT_ROTATED_NINETY_DEGREESoPAWN_ROTATED_NINETY_DEGREESaWHITE_CHESS_KNIG
    HT_ROTATED_ONE_HUNDRED_THIRTY-FIVE_DEGREESaBLACK_CHESS_KNIGHT_ROTATED_ONE_HUNDRED_THIRTY-FIVE_
    DEGREESaNEUTRAL_CHESS_KNIGHT_ROTATED_ONE_HUNDRED_THIRTY-FIVE_DEGREESaWHITE_CHESS_TURNED_KINGtQ
    UEENtROOKtBISHOPtKNIGHTtPAWNaBLACK_CHESS_TURNED_KINGtQUEENtROOKtBISHOPtKNIGHTtPAWNaNEUTRAL_CHE
    SS_TURNED_KINGvQUEENvROOKvBISHOPvKNIGHTvPAWNaWHITE_CHESS_KNIGHT_ROTATED_TWO_HUNDRED_TWENTY-FIV
    E_DEGREESaBLACK_CHESS_KNIGHT_ROTATED_TWO_HUNDRED_TWENTY-FIVE_DEGREESaNEUTRAL_CHESS_KNIGHT_ROTA
    TED_TWO_HUNDRED_TWENTY-FIVE_DEGREESaWHITE_CHESS_KING_ROTATED_TWO_HUNDRED_SEVENTY_DEGREESmQUEEN
    _ROTATED_TWO_HUNDRED_SEVENTY_DEGREESmROOK_ROTATED_TWO_HUNDRED_SEVENTY_DEGREESmBISHOP_ROTATED_T
    WO_HUNDRED_SEVENTY_DEGREESmKNIGHT_ROTATED_TWO_HUNDRED_SEVENTY_DEGREESmPAWN_ROTATED_TWO_HUNDRED
    _SEVENTY_DEGREESaBLACK_CHESS_KING_ROTATED_TWO_HUNDRED_SEVENTY_DEGREESmQUEEN_ROTATED_TWO_HUNDRE
    D_SEVENTY_DEGREESmROOK_ROTATED_TWO_HUNDRED_SEVENTY_DEGREESmBISHOP_ROTATED_TWO_HUNDRED_SEVENTY_
    DEGREESmKNIGHT_ROTATED_TWO_HUNDRED_SEVENTY_DEGREESmPAWN_ROTATED_TWO_HUNDRED_SEVENTY_DEGREESaNE
    UTRAL_CHESS_KING_ROTATED_TWO_HUNDRED_SEVENTY_DEGREESoQUEEN_ROTATED_TWO_HUNDRED_SEVENTY_DEGREES
    oROOK_ROTATED_TWO_HUNDRED_SEVENTY_DEGREESoBISHOP_ROTATED_TWO_HUNDRED_SEVENTY_DEGREESoKNIGHT_RO
    TATED_TWO_HUNDRED_SEVENTY_DEGREESoPAWN_ROTATED_TWO_HUNDRED_SEVENTY_DEGREESaWHITE_CHESS_KNIGHT_
    ROTATED_THREE_HUNDRED_FIFTEEN_DEGREESaBLACK_CHESS_KNIGHT_ROTATED_THREE_HUNDRED_FIFTEEN_DEGREES
    aNEUTRAL_CHESS_KNIGHT_ROTATED_THREE_HUNDRED_FIFTEEN_DEGREESaWHITE_CHESS_EQUIHOPPERaBLACK_CHESS
    _EQUIHOPPERaNEUTRAL_CHESS_EQUIHOPPERaWHITE_CHESS_EQUIHOPPER_ROTATED_NINETY_DEGREESaBLACK_CHESS
    _EQUIHOPPER_ROTATED_NINETY_DEGREESaNEUTRAL_CHESS_EQUIHOPPER_ROTATED_NINETY_DEGREESaWHITE_CHESS
    _KNIGHT-QUEENtROOKtBISHOPaBLACK_CHESS_KNIGHT-QUEENtROOKtBISHOP=1FA60aXIANGQI_RED_GENERALmMANDA
    RINmELEPHANTmHORSEmCHARIOTnANNONmSOLDIERiBLACK_GENERALoMANDARINoELEPHANToHORSEoCHARIOTpANNONoS
    OLDIER=1FA70aBALLET_SHOESaONE-PIECE_SWIMSUITaBRIEFSaSHORTSaTHONG_SANDAL=1FA78aDROP_OF_BLOODaAD
    HESIVE_BANDAGEaSTETHOSCOPEaX-RAYaCRUTCH=1FA80aYO-YOaKITEaPARACHUTEaBOOMERANGaMAGIC_WANDaPINATA
    aNESTING_DOLLS=1FA90aRINGED_PLANETaCHAIRaRAZORaAXEaDIYA_LAMPaBANJOaMILITARY_HELMETaACCORDIONaL
    ONG_DRUMaCOINbARPENTRY_SAWaSCREWDRIVERaLADDERaHOOKaMIRRORaWINDOWaPLUNGERaSEWING_NEEDLEaKNOTaBU
    CKETaMOUSE_TRAPaTOOTHBRUSHaHEADSTONEaPLACARDaROCKaMIRROR_BALLaIDENTIFICATION_CARDaLOW_BATTERYa
    HAMSA=1FAB0aFLYaWORMaBEETLEaCOCKROACHaPOTTED_PLANTaWOODaFEATHERaLOTUSaCORALaEMPTY_NESTaNEST_WI
    TH_EGGS=1FAC0aANATOMICAL_HEARTaLUNGSaPEOPLE_HUGGINGbREGNANT_MANjPERSONbERSON_WITH_CROWN=1FAD0a
    BLUEBERRIESbELL_PEPPERaOLIVEaFLATBREADaTAMALEaFONDUEaTEAPOTaPOURING_LIQUIDaBEANSaJAR=1FAE0aMEL
    TING_FACEaSALUTING_FACEaFACE_WITH_OPEN_EYES_AND_HAND_OVER_MOUTHkPEEKING_EYEkDIAGONAL_MOUTHaDOT
    TED_LINE_FACEaBITING_LIPbUBBLES=1FAF0aHAND_WITH_INDEX_FINGER_AND_THUMB_CROSSEDaRIGHTWARDS_HAND
    aLEFTWARDS_HANDaPALM_DOWN_HANDfUP_HANDaINDEX_POINTING_AT_THE_VIEWERaHEART_HANDS=1FB00aBLOCK_SE
    XTANT-1o2o12o3o13o23o123o4o14o24o124o34o134o234o1234o5o15o25o125o35o235o1235o45o145o245o1245o3
    45o1345o2345o12345o6o16o26o126o36o136o236o1236o46o146p246o346o1346o2346o12346o56o156o256o1256o
    356o1356o2356o12356o456o1456o2456o12456o3456o13456o23456aLOWER_LEFT_BLOCK_DIAGONAL_LOWER_MIDDL
    E_LEFT_TO_LOWER_CENTREzzdRIGHTzbUPPER_MIDDLE_LEFT_TO_LOWER_CENTREzzdRIGHTzhLEFT_TO_LOWER_CENTR
    EgRIGHT_BLOCK_DIAGONAL_UPPER_MIDDLE_LEFT_TO_UPPER_CENTREzzeRIGHTzcLOWER_MIDDLE_LEFT_TO_UPPER_C
    ENTREzzeRIGHTziLEFT_TO_UPPER_CENTREziMIDDLE_LEFT_TO_UPPER_MIDDLE_RIGHTziCENTRE_TO_LOWER_MIDDLE
    _RIGHTziLEFT_TO_LOWER_MIDDLE_RIGHTziCENTRE_TO_UPPER_MIDDLE_RIGHTziLEFT_TO_UPPER_MIDDLE_RIGHTzi
    CENTRE_TO_UPPER_RIGHTgLEFT_BLOCK_DIAGONAL_UPPER_CENTRE_TO_UPPER_MIDDLE_RIGHTzhLEFT_TO_UPPER_MI
    DDLE_RIGHTzhCENTRE_TO_LOWER_MIDDLE_RIGHTzhLEFT_TO_LOWER_MIDDLE_RIGHTzhCENTRE_TO_LOWER_RIGHTzhM
    IDDLE_LEFT_TO_LOWER_MIDDLE_RIGHTaUPPER_RIGHT_BLOCK_DIAGONAL_LOWER_MIDDLE_LEFT_TO_LOWER_CENTREz
    zeRIGHTzcUPPER_MIDDLE_LEFT_TO_LOWER_CENTREzzeRIGHTziLEFT_TO_LOWER_CENTREgLEFT_BLOCK_DIAGONAL_U
    PPER_MIDDLE_LEFT_TO_UPPER_CENTREzzdRIGHTzbLOWER_MIDDLE_LEFT_TO_UPPER_CENTREzzdRIGHTzhLEFT_TO_U
    PPER_CENTREzhMIDDLE_LEFT_TO_UPPER_MIDDLE_RIGHTzhCENTRE_TO_LOWER_MIDDLE_RIGHTzhLEFT_TO_LOWER_MI
    DDLE_RIGHTzhCENTRE_TO_UPPER_MIDDLE_RIGHTzhLEFT_TO_UPPER_MIDDLE_RIGHTzhCENTRE_TO_UPPER_RIGHTgRI
    GHT_BLOCK_DIAGONAL_UPPER_CENTRE_TO_UPPER_MIDDLE_RIGHTziLEFT_TO_UPPER_MIDDLE_RIGHTziCENTRE_TO_L
    OWER_MIDDLE_RIGHTziLEFT_TO_LOWER_MIDDLE_RIGHTziCENTRE_TO_LOWER_RIGHTziMIDDLE_LEFT_TO_LOWER_MID
    DLE_RIGHTgAND_RIGHT_AND_LOWER_TRIANGULAR_THREE_QUARTERS_BLOCKaLEFT_AND_LOWER_AND_RIGHT_TRIANGU
    LAR_THREE_QUARTERS_BLOCKaUPPER_AND_LEFT_AND_LOWER_TRIANGULAR_THREE_QUARTERS_BLOCKaLEFT_AND_UPP
    ER_AND_RIGHT_TRIANGULAR_THREE_QUARTERS_BLOCKfTRIANGULAR_ONE_QUARTER_BLOCKaUPPER_TRIANGULAR_ONE
    _QUARTER_BLOCKaRIGHT_TRIANGULAR_ONE_QUARTER_BLOCKaLOWER_TRIANGULAR_ONE_QUARTER_BLOCKaVERTICAL_
    ONE_EIGHTH_BLOCK-2zb3zb4zb5zb6zb7aHORIZONTAL_ONE_EIGHTH_BLOCK-2zd3zd4zd5zd6zd7aLEFT_AND_LOWER_
    ONE_EIGHTH_BLOCKjUPPER_ONE_EIGHTH_BLOCKaRIGHT_AND_UPPER_ONE_EIGHTH_BLOCKkLOWER_ONE_EIGHTH_BLOC
    KaUPPER_AND_LOWER_ONE_EIGHTH_BLOCKaHORIZONTAL_ONE_EIGHTH_BLOCK-1358aUPPER_ONE_QUARTER_BLOCKgTH
    REE_EIGHTHS_BLOCKgFIVE_EIGHTHS_BLOCKgTHREE_QUARTERS_BLOCKgSEVEN_EIGHTHS_BLOCKaRIGHT_ONE_QUARTE
    R_BLOCKgTHREE_EIGHTHS_BLOCKgFIVE_EIGHTHS_BLOCKgTHREE_QUARTERS_BLOCKgSEVEN_EIGHTHS_BLOCKaLEFT_H
    ALF_MEDIUM_SHADEaRIGHT_HALF_MEDIUM_SHADEaUPPER_HALF_MEDIUM_SHADEaLOWER_HALF_MEDIUM_SHADEaINVER
    SE_MEDIUM_SHADEaUPPER_HALF_BLOCK_AND_LOWER_HALF_INVERSE_MEDIUM_SHADElINVERSE_MEDIUM_SHADE_AND_
    LOWER_HALF_BLOCK=1FB94aLEFT_HALF_INVERSE_MEDIUM_SHADE_AND_RIGHT_HALF_BLOCKaCHECKER_BOARD_FILLa
    INVERSE_CHECKER_BOARD_FILLaHEAVY_HORIZONTAL_FILLaUPPER_LEFT_TO_LOWER_RIGHT_FILLgRIGHT_TO_LOWER
    _LEFT_FILLgAND_LOWER_TRIANGULAR_HALF_BLOCKaLEFT_AND_RIGHT_TRIANGULAR_HALF_BLOCKaUPPER_LEFT_TRI
    ANGULAR_MEDIUM_SHADEgRIGHT_TRIANGULAR_MEDIUM_SHADEaLOWER_RIGHT_TRIANGULAR_MEDIUM_SHADEgLEFT_TR
    IANGULAR_MEDIUM_SHADEaBOX_DRAWINGS_LIGHT_DIAGONAL_UPPER_CENTRE_TO_MIDDLE_LEFTzzbRIGHTzdMIDDLE_
    LEFT_TO_LOWER_CENTREzkRIGHT_TO_LOWER_CENTREzdUPPER_CENTRE_TO_MIDDLE_LEFT_TO_LOWER_CENTREzzbRIG
    HT_TO_LOWER_CENTREzdMIDDLE_LEFT_TO_LOWER_CENTRE_TO_MIDDLE_RIGHTzsUPPER_CENTRE_TO_MIDDLE_RIGHTz
    dUPPER_CENTRE_TO_MIDDLE_LEFT_AND_MIDDLE_RIGHT_TO_LOWER_CENTREzzbRIGHT_AND_MIDDLE_LEFT_TO_LOWER
    _CENTREzzhTO_LOWER_CENTRE_TO_MIDDLE_LEFTzzbLEFT_TO_LOWER_CENTRE_TO_MIDDLE_RIGHTzdMIDDLE_LEFT_T
    O_UPPER_CENTRE_TO_MIDDLE_RIGHT_TO_LOWER_CENTREzkRIGHT_TO_UPPER_CENTRE_TO_MIDDLE_LEFT_TO_LOWER_
    CENTREzdDIAMONDtHORIZONTAL_WITH_VERTICAL_STROKEaARROWHEAD-SHAPED_POINTERaINVERSE_CHECK_MARKaLE
    FT_HALF_RUNNING_MANaRIGHT_HALF_RUNNING_MANaINVERSE_DOWNWARDS_ARROW_WITH_TIP_LEFTWARDSaLEFTWARD
    S_ARROW_AND_UPPER_AND_LOWER_ONE_EIGHTH_BLOCKaRIGHTWARDS_ARROW_AND_UPPER_AND_LOWER_ONE_EIGHTH_B
    LOCKaDOWNWARDS_ARROW_AND_RIGHT_ONE_EIGHTH_BLOCKaUPWARDS_ARROW_AND_RIGHT_ONE_EIGHTH_BLOCKaLEFT_
    HALF_FOLDERaRIGHT_HALF_FOLDERaVOIDED_GREEK_CROSSaRIGHT_OPEN_SQUARED_DOTaNEGATIVE_DIAGONAL_CROS
    SsMIDDLE_RIGHT_TO_LOWER_CENTREsDIAMONDaWHITE_HEAVY_SALTIRE_WITH_ROUNDED_CORNERSaLEFT_THIRD_WHI
    TE_RIGHT_POINTING_INDEXaMIDDLE_THIRD_WHITE_RIGHT_POINTING_INDEXaRIGHT_THIRD_WHITE_RIGHT_POINTI
    NG_INDEXaNEGATIVE_SQUARED_QUESTION_MARKaSTICK_FIGUREm_WITH_ARMS_RAISEDnLEANING_LEFTvRIGHTnWITH
    _DRESSaWHITE_UP-POINTING_CHEVRON=1FBF0aSEGMENTED_DIGIT_ZEROqONEqTWOrHREEqFOURrIVEqSIXrEVENqEIG
    HTqNINE=2F800aCJK_COMPATIBILITY_IDEOGRAPH-2F800zh1zh2zh3zh4zh5zh6zh7zh8zh9zhAzhBzhCzhDzhEzhFzg
    10zh1zh2zh3zh4zh5zh6zh7zh8zh9zhAzhBzhCzhDzhEzhFzg20zh1zh2zh3zh4zh5zh6zh7zh8zh9zhAzhBzhCzhDzhEz
    hFzg30zh1zh2zh3zh4zh5zh6zh7zh8zh9zhAzhBzhCzhDzhEzhFzg40zh1zh2zh3zh4zh5zh6zh7zh8zh9zhAzhBzhCzhD
    zhEzhFzg50zh1zh2zh3zh4zh5zh6zh7zh8zh9zhAzhBzhCzhDzhEzhFzg60zh1zh2zh3zh4zh5zh6zh7zh8zh9zhAzhBzh
    CzhDzhEzhFzg70zh1zh2zh3zh4zh5zh6zh7zh8zh9zhAzhBzhCzhDzhEzhFzg80zh1zh2zh3zh4zh5zh6zh7zh8zh9zhAz
    hBzhCzhDzhEzhFzg90zh1zh2zh3zh4zh5zh6zh7zh8zh9zhAzhBzhCzhDzhEzhFzgA0zh1zh2zh3zh4zh5zh6zh7zh8zh9
    zhAzhBzhCzhDzhEzhFzgB0zh1zh2zh3zh4zh5zh6zh7zh8zh9zhAzhBzhCzhDzhEzhFzgC0zh1zh2zh3zh4zh5zh6zh7zh
    8zh9zhAzhBzhCzhDzhEzhFzgD0zh1zh2zh3zh4zh5zh6zh7zh8zh9zhAzhBzhCzhDzhEzhFzgE0zh1zh2zh3zh4zh5zh6z
    h7zh8zh9zhAzhBzhCzhDzhEzhFzgF0zh1zh2zh3zh4zh5zh6zh7zh8zh9zhAzhBzhCzhDzhEzhFzf900zh1zh2zh3zh4zh
    5zh6zh7zh8zh9zhAzhBzhCzhDzhEzhFzg10zh1zh2zh3zh4zh5zh6zh7zh8zh9zhAzhBzhCzhDzhEzhFzg20zh1zh2zh3z
    h4zh5zh6zh7zh8zh9zhAzhBzhCzhDzhEzhFzg30zh1zh2zh3zh4zh5zh6zh7zh8zh9zhAzhBzhCzhDzhEzhFzg40zh1zh2
    zh3zh4zh5zh6zh7zh8zh9zhAzhBzhCzhDzhEzhFzg50zh1zh2zh3zh4zh5zh6zh7zh8zh9zhAzhBzhCzhDzhEzhFzg60zh
    1zh2zh3zh4zh5zh6zh7zh8zh9zhAzhBzhCzhDzhEzhFzg70zh1zh2zh3zh4zh5zh6zh7zh8zh9zhAzhBzhCzhDzhEzhFzg
    80zh1zh2zh3zh4zh5zh6zh7zh8zh9zhAzhBzhCzhDzhEzhFzg90zh1zh2zh3zh4zh5zh6zh7zh8zh9zhAzhBzhCzhDzhEz
    hFzgA0zh1zh2zh3zh4zh5zh6zh7zh8zh9zhAzhBzhCzhDzhEzhFzgB0zh1zh2zh3zh4zh5zh6zh7zh8zh9zhAzhBzhCzhD
    zhEzhFzgC0zh1zh2zh3zh4zh5zh6zh7zh8zh9zhAzhBzhCzhDzhEzhFzgD0zh1zh2zh3zh4zh5zh6zh7zh8zh9zhAzhBzh
    CzhDzhEzhFzgE0zh1zh2zh3zh4zh5zh6zh7zh8zh9zhAzhBzhCzhDzhEzhFzgF0zh1zh2zh3zh4zh5zh6zh7zh8zh9zhAz
    hBzhCzhDzhEzhFzfA00zh1zh2zh3zh4zh5zh6zh7zh8zh9zhAzhBzhCzhDzhEzhFzg10zh1zh2zh3zh4zh5zh6zh7zh8zh
    9zhAzhBzhCzhD=E0001aLANGUAGE_TAG=E0020aTAG_SPACEeEXCLAMATION_MARKeQUOTATION_MARKeNUMBER_SIGNeD
    OLLAR_SIGNePERCENT_SIGNeAMPERSANDfPOSTROPHEeLEFT_PARENTHESISeRIGHT_PARENTHESISeASTERISKePLUS_S
    IGNeCOMMAeHYPHEN-MINUSeFULL_STOPeSOLIDUSeDIGIT_ZEROkONEkTWOlHREEkFOURlIVEkSIXlEVENkEIGHTkNINEe
    COLONeSEMICOLONeLESS-THAN_SIGNeEQUALS_SIGNeGREATER-THAN_SIGNeQUESTION_MARKeCOMMERCIAL_ATeLATIN
    _CAPITAL_LETTER_AzBzCzDzEzFzGzHzIzJzKzLzMzNzOzPzQzRzSzTzUzVzWzXzYzZfEFT_SQUARE_BRACKETeREVERSE
    _SOLIDUSfIGHT_SQUARE_BRACKETeCIRCUMFLEX_ACCENTeLOW_LINEeGRAVE_ACCENTeLATIN_SMALL_LETTER_AxBxCx
    DxExFxGxHxIxJxKxLxMxNxOxPxQxRxSxTxUxVxWxXxYxZfEFT_CURLY_BRACKETeVERTICAL_LINEeRIGHT_CURLY_BRAC
    KETeTILDEaCANCEL_TAG=E0100aVARIATION_SELECTOR-17u8u9t20u1u2u3u4u5u6u7u8u9t30u1u2u3u4u5u6u7u8u9
    t40u1u2u3u4u5u6u7u8u9t50u1u2u3u4u5u6u7u8u9t60u1u2u3u4u5u6u7u8u9t70u1u2u3u4u5u6u7u8u9t80u1u2u3u
    4u5u6u7u8u9t90u1u2u3u4u5u6u7u8u9t100v1v2v3v4v5v6v7v8v9u10v1v2v3v4v5v6v7v8v9u20v1v2v3v4v5v6v7v8
    v9u30v1v2v3v4v5v6v7v8v9u40v1v2v3v4v5v6v7v8v9u50v1v2v3v4v5v6v7v8v9u60v1v2v3v4v5v6v7v8v9u70v1v2v
    3v4v5v6v7v8v9u80v1v2v3v4v5v6v7v8v9u90v1v2v3v4v5v6v7v8v9t200v1v2v3v4v5v6v7v8v9u10v1v2v3v4v5v6v7
    v8v9u20v1v2v3v4v5v6v7v8v9u30v1v2v3v4v5v6v7v8v9u40v1v2v3v4v5v6v7v8v9u50v1v2v3v4v5v6"

end Assay.Text
