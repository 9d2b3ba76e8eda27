/-!
# Names of characters: signs

The names of punctuation, signs, and the scripts of East Asia up to the radicals of Yi (Unicode 14), in the form that `CharacterName` reads.
-/

namespace Assay.Text

/-- The names of punctuation, signs, and the scripts of East Asia up to the radicals of Yi. -/
def signNames : String :=
  "=2000aEN_QUADbM_QUADbN_SPACEbM_SPACEaTHREE-PER-EM_SPACEaFOUR-PER-EM_SPACEaSIX-PER-EM_SPACEaFIG
    URE_SPACEaPUNCTUATION_SPACEaTHIN_SPACEaHAIR_SPACEaZERO_WIDTH_SPACElNON-JOINERlJOINERaLEFT-TO-R
    IGHT_MARKaRIGHT-TO-LEFT_MARKaHYPHENaNON-BREAKING_HYPHENaFIGURE_DASHaEN_DASHbM_DASHaHORIZONTAL_
    BARaDOUBLE_VERTICAL_LINEhLOW_LINEaLEFT_SINGLE_QUOTATION_MARKaRIGHT_SINGLE_QUOTATION_MARKaSINGL
    E_LOW-9_QUOTATION_MARKhHIGH-REVERSED-9_QUOTATION_MARKaLEFT_DOUBLE_QUOTATION_MARKaRIGHT_DOUBLE_
    QUOTATION_MARKaDOUBLE_LOW-9_QUOTATION_MARKhHIGH-REVERSED-9_QUOTATION_MARKbAGGERbOUBLE_DAGGERaB
    ULLETaTRIANGULAR_BULLETaONE_DOT_LEADERaTWO_DOT_LEADERaHORIZONTAL_ELLIPSISbYPHENATION_POINTaLIN
    E_SEPARATORaPARAGRAPH_SEPARATORaLEFT-TO-RIGHT_EMBEDDINGaRIGHT-TO-LEFT_EMBEDDINGaPOP_DIRECTIONA
    L_FORMATTINGaLEFT-TO-RIGHT_OVERRIDEaRIGHT-TO-LEFT_OVERRIDEaNARROW_NO-BREAK_SPACEaPER_MILLE_SIG
    NeTEN_THOUSAND_SIGNbRIMEaDOUBLE_PRIMEaTRIPLE_PRIMEaREVERSED_PRIMEjDOUBLE_PRIMEjTRIPLE_PRIMEaCA
    RETaSINGLE_LEFT-POINTING_ANGLE_QUOTATION_MARKhRIGHT-POINTING_ANGLE_QUOTATION_MARKaREFERENCE_MA
    RKaDOUBLE_EXCLAMATION_MARKaINTERROBANGaOVERLINEaUNDERTIEaCHARACTER_TIEbARET_INSERTION_POINTaAS
    TERISMaHYPHEN_BULLETaFRACTION_SLASHaLEFT_SQUARE_BRACKET_WITH_QUILLaRIGHT_SQUARE_BRACKET_WITH_Q
    UILLaDOUBLE_QUESTION_MARKaQUESTION_EXCLAMATION_MARKaEXCLAMATION_QUESTION_MARKaTIRONIAN_SIGN_ET
    aREVERSED_PILCROW_SIGNaBLACK_LEFTWARDS_BULLETgRIGHTWARDS_BULLETaLOW_ASTERISKaREVERSED_SEMICOLO
    NaCLOSE_UPaTWO_ASTERISKS_ALIGNED_VERTICALLYaCOMMERCIAL_MINUS_SIGNaSWUNG_DASHaINVERTED_UNDERTIE
    aFLOWER_PUNCTUATION_MARKaTHREE_DOT_PUNCTUATIONaQUADRUPLE_PRIMEaFOUR_DOT_PUNCTUATIONbIVE_DOT_PU
    NCTUATIONaTWO_DOT_PUNCTUATIONaFOUR_DOT_MARKaDOTTED_CROSSaTRICOLONaVERTICAL_FOUR_DOTSaMEDIUM_MA
    THEMATICAL_SPACEaWORD_JOINERaFUNCTION_APPLICATIONaINVISIBLE_TIMESkSEPARATORkPLUS=2066aLEFT-TO-
    RIGHT_ISOLATEaRIGHT-TO-LEFT_ISOLATEaFIRST_STRONG_ISOLATEaPOP_DIRECTIONAL_ISOLATEaINHIBIT_SYMME
    TRIC_SWAPPINGaACTIVATE_SYMMETRIC_SWAPPINGaINHIBIT_ARABIC_FORM_SHAPINGaACTIVATE_ARABIC_FORM_SHA
    PINGaNATIONAL_DIGIT_SHAPESbOMINAL_DIGIT_SHAPESaSUPERSCRIPT_ZEROmLATIN_SMALL_LETTER_I=2074mFOUR
    nIVEmSIXnEVENmEIGHTmNINEmPLUS_SIGNmMINUSmEQUALS_SIGNmLEFT_PARENTHESISmRIGHT_PARENTHESISmLATIN_
    SMALL_LETTER_NcBSCRIPT_ZEROkONEkTWOlHREEkFOURlIVEkSIXlEVENkEIGHTkNINEkPLUS_SIGNkMINUSkEQUALS_S
    IGNkLEFT_PARENTHESISkRIGHT_PARENTHESIS=2090aLATIN_SUBSCRIPT_SMALL_LETTER_AzeEzeOzeXzeSCHWAzeHz
    eKzeLzeMzeNzePzeSzeT=20A0aEURO-CURRENCY_SIGNaCOLON_SIGNbRUZEIRO_SIGNaFRENCH_FRANC_SIGNaLIRA_SI
    GNaMILL_SIGNaNAIRA_SIGNaPESETA_SIGNaRUPEE_SIGNaWON_SIGNaNEW_SHEQEL_SIGNaDONG_SIGNaEURO_SIGNaKI
    P_SIGNaTUGRIK_SIGNaDRACHMA_SIGNaGERMAN_PENNY_SIGNaPESO_SIGNaGUARANI_SIGNaAUSTRAL_SIGNaHRYVNIA_
    SIGNaCEDI_SIGNaLIVRE_TOURNOIS_SIGNaSPESMILO_SIGNaTENGE_SIGNaINDIAN_RUPEE_SIGNaTURKISH_LIRA_SIG
    NaNORDIC_MARK_SIGNaMANAT_SIGNaRUBLE_SIGNaLARI_SIGNaBITCOIN_SIGNaSOM_SIGN=20D0aCOMBINING_LEFT_H
    ARPOON_ABOVEkRIGHT_HARPOON_ABOVEkLONG_VERTICAL_LINE_OVERLAYkSHORT_VERTICAL_LINE_OVERLAYkANTICL
    OCKWISE_ARROW_ABOVEkCLOCKWISE_ARROW_ABOVEkLEFT_ARROW_ABOVEkRIGHT_ARROW_ABOVEmNG_OVERLAYkCLOCKW
    ISE_RING_OVERLAYkANTICLOCKWISE_RING_OVERLAYkTHREE_DOTS_ABOVEkFOUR_DOTS_ABOVEkENCLOSING_CIRCLEu
    SQUAREuDIAMONDuCIRCLE_BACKSLASHkLEFT_RIGHT_ARROW_ABOVEkENCLOSING_SCREENuKEYCAPuUPWARD_POINTING
    _TRIANGLEkREVERSE_SOLIDUS_OVERLAYkDOUBLE_VERTICAL_STROKE_OVERLAYkANNUITY_SYMBOLkTRIPLE_UNDERDO
    TkWIDE_BRIDGE_ABOVEkLEFTWARDS_ARROW_OVERLAYlONG_DOUBLE_SOLIDUS_OVERLAYkRIGHTWARDS_HARPOON_WITH
    _BARB_DOWNWARDSkLEFTWARDS_HARPOON_WITH_BARB_DOWNWARDSo_ARROW_BELOWkRIGHT_ARROW_BELOWkASTERISK_
    ABOVE=2100aACCOUNT_OFbDDRESSED_TO_THE_SUBJECTaDOUBLE-STRUCK_CAPITAL_CbEGREE_CELSIUSaCENTRE_LIN
    E_SYMBOLbARE_OFcDA_UNAaEULER_CONSTANTaSCRUPLEaDEGREE_FAHRENHEITaSCRIPT_SMALL_GhCAPITAL_HaBLACK
    -LETTER_CAPITAL_HaDOUBLE-STRUCK_CAPITAL_HaPLANCK_CONSTANTp_OVER_TWO_PIaSCRIPT_CAPITAL_IaBLACK-
    LETTER_CAPITAL_IaSCRIPT_CAPITAL_LhSMALL_LaL_B_BAR_SYMBOLaDOUBLE-STRUCK_CAPITAL_NaNUMERO_SIGNaS
    OUND_RECORDING_COPYRIGHTbCRIPT_CAPITAL_PaDOUBLE-STRUCK_CAPITAL_PwQaSCRIPT_CAPITAL_RaBLACK-LETT
    ER_CAPITAL_RaDOUBLE-STRUCK_CAPITAL_RaPRESCRIPTION_TAKEaRESPONSEaSERVICE_MARKaTELEPHONE_SIGNbRA
    DE_MARK_SIGNaVERSICLEaDOUBLE-STRUCK_CAPITAL_ZaOUNCE_SIGNbHM_SIGNaINVERTED_OHM_SIGNaBLACK-LETTE
    R_CAPITAL_ZaTURNED_GREEK_SMALL_LETTER_IOTAaKELVIN_SIGNaANGSTROM_SIGNaSCRIPT_CAPITAL_BaBLACK-LE
    TTER_CAPITAL_CaESTIMATED_SYMBOLaSCRIPT_SMALL_EhCAPITAL_EpFaTURNED_CAPITAL_FaSCRIPT_CAPITAL_MhS
    MALL_OaALEF_SYMBOLaBET_SYMBOLaGIMEL_SYMBOLaDALET_SYMBOLaINFORMATION_SOURCEaROTATED_CAPITAL_QaF
    ACSIMILE_SIGNaDOUBLE-STRUCK_SMALL_PIuGAMMAoCAPITAL_GAMMAwPIoN-ARY_SUMMATIONaTURNED_SANS-SERIF_
    CAPITAL_GzbLaREVERSED_SANS-SERIF_CAPITAL_LaTURNED_SANS-SERIF_CAPITAL_YaDOUBLE-STRUCK_ITALIC_CA
    PITAL_DvSMALL_DzcEzcIzcJaPROPERTY_LINEaTURNED_AMPERSANDaPER_SIGNaAKTIESELSKABaTURNED_SMALL_FaS
    YMBOL_FOR_SAMARITAN_SOURCEaVULGAR_FRACTION_ONE_SEVENTHuNINTHuTENTHvHIRDqTWO_THIRDSqONE_FIFTHqT
    WO_FIFTHSrHREE_FIFTHSqFOUR_FIFTHSqONE_SIXTHqFIVE_SIXTHSqONE_EIGHTHqTHREE_EIGHTHSqFIVE_EIGHTHSq
    SEVEN_EIGHTHSaFRACTION_NUMERATOR_ONEaROMAN_NUMERAL_ONEoTWOpHREEoFOURpIVEoSIXpEVENoEIGHToNINEoT
    ENoELEVENoTWELVEoFIFTYoONE_HUNDREDoFIVE_HUNDREDoONE_THOUSANDaSMALL_ROMAN_NUMERAL_ONEuTWOvHREEu
    FOURvIVEuSIXvEVENuEIGHTuNINEuTENuELEVENuTWELVEuFIFTYuONE_HUNDREDuFIVE_HUNDREDuONE_THOUSANDaROM
    AN_NUMERAL_ONE_THOUSAND_C_DoFIVE_THOUSANDoTEN_THOUSANDoREVERSED_ONE_HUNDREDaLATIN_SMALL_LETTER
    _REVERSED_CaROMAN_NUMERAL_SIX_LATE_FORMoFIFTY_EARLY_FORMuTHOUSANDoONE_HUNDRED_THOUSANDaVULGAR_
    FRACTION_ZERO_THIRDSaTURNED_DIGIT_TWOoHREE=2190aLEFTWARDS_ARROWaUPWARDS_ARROWaRIGHTWARDS_ARROW
    aDOWNWARDS_ARROWaLEFT_RIGHT_ARROWaUP_DOWN_ARROWaNORTH_WEST_ARROWgEAST_ARROWaSOUTH_EAST_ARROWgW
    EST_ARROWaLEFTWARDS_ARROW_WITH_STROKEaRIGHTWARDS_ARROW_WITH_STROKEaLEFTWARDS_WAVE_ARROWaRIGHTW
    ARDS_WAVE_ARROWaLEFTWARDS_TWO_HEADED_ARROWaUPWARDS_TWO_HEADED_ARROWaRIGHTWARDS_TWO_HEADED_ARRO
    WaDOWNWARDS_TWO_HEADED_ARROWaLEFTWARDS_ARROW_WITH_TAILaRIGHTWARDS_ARROW_WITH_TAILaLEFTWARDS_AR
    ROW_FROM_BARaUPWARDS_ARROW_FROM_BARaRIGHTWARDS_ARROW_FROM_BARaDOWNWARDS_ARROW_FROM_BARaUP_DOWN
    _ARROW_WITH_BASEaLEFTWARDS_ARROW_WITH_HOOKaRIGHTWARDS_ARROW_WITH_HOOKaLEFTWARDS_ARROW_WITH_LOO
    PaRIGHTWARDS_ARROW_WITH_LOOPaLEFT_RIGHT_WAVE_ARROWlARROW_WITH_STROKEaDOWNWARDS_ZIGZAG_ARROWaUP
    WARDS_ARROW_WITH_TIP_LEFTWARDSxRIGHTWARDSaDOWNWARDS_ARROW_WITH_TIP_LEFTWARDSzRIGHTWARDSaRIGHTW
    ARDS_ARROW_WITH_CORNER_DOWNWARDSaDOWNWARDS_ARROW_WITH_CORNER_LEFTWARDSaANTICLOCKWISE_TOP_SEMIC
    IRCLE_ARROWaCLOCKWISE_TOP_SEMICIRCLE_ARROWaNORTH_WEST_ARROW_TO_LONG_BARaLEFTWARDS_ARROW_TO_BAR
    _OVER_RIGHTWARDS_ARROW_TO_BARaANTICLOCKWISE_OPEN_CIRCLE_ARROWaCLOCKWISE_OPEN_CIRCLE_ARROWaLEFT
    WARDS_HARPOON_WITH_BARB_UPWARDSzdDOWNWARDSaUPWARDS_HARPOON_WITH_BARB_RIGHTWARDSzbLEFTWARDSaRIG
    HTWARDS_HARPOON_WITH_BARB_UPWARDSzeDOWNWARDSaDOWNWARDS_HARPOON_WITH_BARB_RIGHTWARDSzdLEFTWARDS
    aRIGHTWARDS_ARROW_OVER_LEFTWARDS_ARROWaUPWARDS_ARROW_LEFTWARDS_OF_DOWNWARDS_ARROWaLEFTWARDS_AR
    ROW_OVER_RIGHTWARDS_ARROWkPAIRED_ARROWSaUPWARDS_PAIRED_ARROWSaRIGHTWARDS_PAIRED_ARROWSaDOWNWAR
    DS_PAIRED_ARROWSaLEFTWARDS_HARPOON_OVER_RIGHTWARDS_HARPOONaRIGHTWARDS_HARPOON_OVER_LEFTWARDS_H
    ARPOONaLEFTWARDS_DOUBLE_ARROW_WITH_STROKEe_RIGHT_DOUBLE_ARROW_WITH_STROKEaRIGHTWARDS_DOUBLE_AR
    ROW_WITH_STROKEaLEFTWARDS_DOUBLE_ARROWaUPWARDS_DOUBLE_ARROWaRIGHTWARDS_DOUBLE_ARROWaDOWNWARDS_
    DOUBLE_ARROWaLEFT_RIGHT_DOUBLE_ARROWaUP_DOWN_DOUBLE_ARROWaNORTH_WEST_DOUBLE_ARROWgEAST_DOUBLE_
    ARROWaSOUTH_EAST_DOUBLE_ARROWgWEST_DOUBLE_ARROWaLEFTWARDS_TRIPLE_ARROWaRIGHTWARDS_TRIPLE_ARROW
    aLEFTWARDS_SQUIGGLE_ARROWaRIGHTWARDS_SQUIGGLE_ARROWaUPWARDS_ARROW_WITH_DOUBLE_STROKEaDOWNWARDS
    _ARROW_WITH_DOUBLE_STROKEaLEFTWARDS_DASHED_ARROWaUPWARDS_DASHED_ARROWaRIGHTWARDS_DASHED_ARROWa
    DOWNWARDS_DASHED_ARROWaLEFTWARDS_ARROW_TO_BARaRIGHTWARDS_ARROW_TO_BARaLEFTWARDS_WHITE_ARROWaUP
    WARDS_WHITE_ARROWaRIGHTWARDS_WHITE_ARROWaDOWNWARDS_WHITE_ARROWaUPWARDS_WHITE_ARROW_FROM_BARuON
    _PEDESTALzg_WITH_HORIZONTAL_BARzmVERTICAL_BARoDOUBLE_ARROWzb_ON_PEDESTALaRIGHTWARDS_WHITE_ARRO
    W_FROM_WALLaNORTH_WEST_ARROW_TO_CORNERaSOUTH_EAST_ARROW_TO_CORNERaUP_DOWN_WHITE_ARROWaRIGHT_AR
    ROW_WITH_SMALL_CIRCLEaDOWNWARDS_ARROW_LEFTWARDS_OF_UPWARDS_ARROWaTHREE_RIGHTWARDS_ARROWSaLEFTW
    ARDS_ARROW_WITH_VERTICAL_STROKEaRIGHTWARDS_ARROW_WITH_VERTICAL_STROKEaLEFT_RIGHT_ARROW_WITH_VE
    RTICAL_STROKEeWARDS_ARROW_WITH_DOUBLE_VERTICAL_STROKEaRIGHTWARDS_ARROW_WITH_DOUBLE_VERTICAL_ST
    ROKEaLEFT_RIGHT_ARROW_WITH_DOUBLE_VERTICAL_STROKEeWARDS_OPEN-HEADED_ARROWaRIGHTWARDS_OPEN-HEAD
    ED_ARROWaLEFT_RIGHT_OPEN-HEADED_ARROWaFOR_ALLaCOMPLEMENTaPARTIAL_DIFFERENTIALaTHERE_EXISTSgDOE
    S_NOT_EXISTaEMPTY_SETaINCREMENTaNABLAaELEMENT_OFaNOT_AN_ELEMENT_OFaSMALL_ELEMENT_OFaCONTAINS_A
    S_MEMBERaDOES_NOT_CONTAIN_AS_MEMBERaSMALL_CONTAINS_AS_MEMBERaEND_OF_PROOFaN-ARY_PRODUCTgCOPROD
    UCTgSUMMATIONaMINUS_SIGNf-OR-PLUS_SIGNaDOT_PLUSbIVISION_SLASHaSET_MINUSaASTERISK_OPERATORaRING
    _OPERATORaBULLET_OPERATORaSQUARE_ROOTaCUBE_ROOTaFOURTH_ROOTaPROPORTIONAL_TOaINFINITYaRIGHT_ANG
    LEaANGLEaMEASURED_ANGLEaSPHERICAL_ANGLEaDIVIDESbOES_NOT_DIVIDEaPARALLEL_TOaNOT_PARALLEL_TOaLOG
    ICAL_ANDiORaINTERSECTIONaUNIONaINTEGRALaDOUBLE_INTEGRALaTRIPLE_INTEGRALaCONTOUR_INTEGRALaSURFA
    CE_INTEGRALaVOLUME_INTEGRALaCLOCKWISE_INTEGRALkCONTOUR_INTEGRALaANTICLOCKWISE_CONTOUR_INTEGRAL
    aTHEREFOREaBECAUSEaRATIOaPROPORTIONaDOT_MINUSaEXCESSaGEOMETRIC_PROPORTIONaHOMOTHETICaTILDE_OPE
    RATORaREVERSED_TILDEaINVERTED_LAZY_SaSINE_WAVEaWREATH_PRODUCTaNOT_TILDEaMINUS_TILDEaASYMPTOTIC
    ALLY_EQUAL_TOaNOT_ASYMPTOTICALLY_EQUAL_TOaAPPROXIMATELY_EQUAL_TOoBUT_NOT_ACTUALLY_EQUAL_TOaNEI
    THER_APPROXIMATELY_NOR_ACTUALLY_EQUAL_TOaALMOST_EQUAL_TOaNOT_ALMOST_EQUAL_TOaALMOST_EQUAL_OR_E
    QUAL_TOaTRIPLE_TILDEaALL_EQUAL_TOaEQUIVALENT_TOaGEOMETRICALLY_EQUIVALENT_TOaDIFFERENCE_BETWEEN
    aAPPROACHES_THE_LIMITaGEOMETRICALLY_EQUAL_TOaAPPROXIMATELY_EQUAL_TO_OR_THE_IMAGE_OFaIMAGE_OF_O
    R_APPROXIMATELY_EQUAL_TOaCOLON_EQUALSaEQUALS_COLONaRING_IN_EQUAL_TOfEQUAL_TOaCORRESPONDS_TOaES
    TIMATESbQUIANGULAR_TOaSTAR_EQUALSaDELTA_EQUAL_TOaEQUAL_TO_BY_DEFINITIONaMEASURED_BYaQUESTIONED
    _EQUAL_TOaNOT_EQUAL_TOaIDENTICAL_TOaNOT_IDENTICAL_TOaSTRICTLY_EQUIVALENT_TOaLESS-THAN_OR_EQUAL
    _TOaGREATER-THAN_OR_EQUAL_TOaLESS-THAN_OVER_EQUAL_TOaGREATER-THAN_OVER_EQUAL_TOaLESS-THAN_BUT_
    NOT_EQUAL_TOaGREATER-THAN_BUT_NOT_EQUAL_TOaMUCH_LESS-THANfGREATER-THANaBETWEENaNOT_EQUIVALENT_
    TOeLESS-THANeGREATER-THANbEITHER_LESS-THAN_NOR_EQUAL_TOiGREATER-THAN_NOR_EQUAL_TOaLESS-THAN_OR
    _EQUIVALENT_TOaGREATER-THAN_OR_EQUIVALENT_TOaNEITHER_LESS-THAN_NOR_EQUIVALENT_TOiGREATER-THAN_
    NOR_EQUIVALENT_TOaLESS-THAN_OR_GREATER-THANaGREATER-THAN_OR_LESS-THANaNEITHER_LESS-THAN_NOR_GR
    EATER-THANiGREATER-THAN_NOR_LESS-THANaPRECEDESaSUCCEEDSaPRECEDES_OR_EQUAL_TOaSUCCEEDS_OR_EQUAL
    _TOaPRECEDES_OR_EQUIVALENT_TOaSUCCEEDS_OR_EQUIVALENT_TOaDOES_NOT_PRECEDEjSUCCEEDaSUBSET_OFcPER
    SET_OFaNOT_A_SUBSET_OFiPERSET_OFaSUBSET_OF_OR_EQUAL_TOcPERSET_OF_OR_EQUAL_TOaNEITHER_A_SUBSET_
    OF_NOR_EQUAL_TOmPERSET_OF_NOR_EQUAL_TOaSUBSET_OF_WITH_NOT_EQUAL_TOcPERSET_OF_WITH_NOT_EQUAL_TO
    aMULTISETi_MULTIPLICATIONjUNIONaSQUARE_IMAGE_OFhORIGINAL_OFhIMAGE_OF_OR_EQUAL_TOhORIGINAL_OF_O
    R_EQUAL_TOhCAPiUPaCIRCLED_PLUSiMINUSiTIMESiDIVISION_SLASHjOT_OPERATORiRING_OPERATORiASTERISK_O
    PERATORiEQUALSiDASHaSQUARED_PLUSiMINUSiTIMESiDOT_OPERATORaRIGHT_TACKaLEFT_TACKaDOWN_TACKaUP_TA
    CKaASSERTIONaMODELSaTRUEaFORCESaTRIPLE_VERTICAL_BAR_RIGHT_TURNSTILEaDOUBLE_VERTICAL_BAR_DOUBLE
    _RIGHT_TURNSTILEcES_NOT_PROVEaNOT_TRUEaDOES_NOT_FORCEaNEGATED_DOUBLE_VERTICAL_BAR_DOUBLE_RIGHT
    _TURNSTILEaPRECEDES_UNDER_RELATIONaSUCCEEDS_UNDER_RELATIONaNORMAL_SUBGROUP_OFaCONTAINS_AS_NORM
    AL_SUBGROUPaNORMAL_SUBGROUP_OF_OR_EQUAL_TOaCONTAINS_AS_NORMAL_SUBGROUP_OR_EQUAL_TOaORIGINAL_OF
    aIMAGE_OFaMULTIMAPaHERMITIAN_CONJUGATE_MATRIXaINTERCALATEaXORaNANDbORaRIGHT_ANGLE_WITH_ARCgTRI
    ANGLEaN-ARY_LOGICAL_ANDoORgINTERSECTIONgUNIONaDIAMOND_OPERATORbOT_OPERATORaSTAR_OPERATORaDIVIS
    ION_TIMESaBOWTIEaLEFT_NORMAL_FACTOR_SEMIDIRECT_PRODUCTaRIGHT_NORMAL_FACTOR_SEMIDIRECT_PRODUCTa
    LEFT_SEMIDIRECT_PRODUCTaRIGHT_SEMIDIRECT_PRODUCTbEVERSED_TILDE_EQUALSaCURLY_LOGICAL_ORoANDaDOU
    BLE_SUBSETjPERSEThINTERSECTIONhUNIONaPITCHFORKaEQUAL_AND_PARALLEL_TOaLESS-THAN_WITH_DOTaGREATE
    R-THAN_WITH_DOTaVERY_MUCH_LESS-THANkGREATER-THANaLESS-THAN_EQUAL_TO_OR_GREATER-THANaGREATER-TH
    AN_EQUAL_TO_OR_LESS-THANaEQUAL_TO_OR_LESS-THANmGREATER-THANmPRECEDESmSUCCEEDSaDOES_NOT_PRECEDE
    _OR_EQUALjSUCCEED_OR_EQUALaNOT_SQUARE_IMAGE_OF_OR_EQUAL_TOlORIGINAL_OF_OR_EQUAL_TOaSQUARE_IMAG
    E_OF_OR_NOT_EQUAL_TOhORIGINAL_OF_OR_NOT_EQUAL_TOaLESS-THAN_BUT_NOT_EQUIVALENT_TOaGREATER-THAN_
    BUT_NOT_EQUIVALENT_TOaPRECEDES_BUT_NOT_EQUIVALENT_TOaSUCCEEDS_BUT_NOT_EQUIVALENT_TOaNOT_NORMAL
    _SUBGROUP_OFaDOES_NOT_CONTAIN_AS_NORMAL_SUBGROUPaNOT_NORMAL_SUBGROUP_OF_OR_EQUAL_TOaDOES_NOT_C
    ONTAIN_AS_NORMAL_SUBGROUP_OR_EQUALaVERTICAL_ELLIPSISaMIDLINE_HORIZONTAL_ELLIPSISaUP_RIGHT_DIAG
    ONAL_ELLIPSISaDOWN_RIGHT_DIAGONAL_ELLIPSISaELEMENT_OF_WITH_LONG_HORIZONTAL_STROKEqVERTICAL_BAR
    _AT_END_OF_HORIZONTAL_STROKEaSMALL_ELEMENT_OF_WITH_VERTICAL_BAR_AT_END_OF_HORIZONTAL_STROKEaEL
    EMENT_OF_WITH_DOT_ABOVEqOVERBARaSMALL_ELEMENT_OF_WITH_OVERBARaELEMENT_OF_WITH_UNDERBARqTWO_HOR
    IZONTAL_STROKESaCONTAINS_WITH_LONG_HORIZONTAL_STROKEoVERTICAL_BAR_AT_END_OF_HORIZONTAL_STROKEa
    SMALL_CONTAINS_WITH_VERTICAL_BAR_AT_END_OF_HORIZONTAL_STROKEaCONTAINS_WITH_OVERBARaSMALL_CONTA
    INS_WITH_OVERBARaZ_NOTATION_BAG_MEMBERSHIPaDIAMETER_SIGNaELECTRIC_ARROWaHOUSEaUP_ARROWHEADaDOW
    N_ARROWHEADaPROJECTIVEbERSPECTIVEaWAVY_LINEaLEFT_CEILINGaRIGHT_CEILINGaLEFT_FLOORaRIGHT_FLOORa
    BOTTOM_RIGHT_CROPhLEFT_CROPaTOP_RIGHT_CROPeLEFT_CROPaREVERSED_NOT_SIGNaSQUARE_LOZENGEaARCaSEGM
    ENTcCTORaTELEPHONE_RECORDERaPOSITION_INDICATORaVIEWDATA_SQUAREaPLACE_OF_INTEREST_SIGNaTURNED_N
    OT_SIGNaWATCHaHOURGLASSaTOP_LEFT_CORNEReRIGHT_CORNERaBOTTOM_LEFT_CORNERhRIGHT_CORNERaTOP_HALF_
    INTEGRALaBOTTOM_HALF_INTEGRALaFROWNaSMILEaUP_ARROWHEAD_BETWEEN_TWO_HORIZONTAL_BARSaOPTION_KEYa
    ERASE_TO_THE_RIGHTaX_IN_A_RECTANGLE_BOXaKEYBOARDaLEFT-POINTING_ANGLE_BRACKETaRIGHT-POINTING_AN
    GLE_BRACKETaERASE_TO_THE_LEFTaBENZENE_RINGaCYLINDRICITYaALL_AROUND-PROFILEaSYMMETRYaTOTAL_RUNO
    UTaDIMENSION_ORIGINaCONICAL_TAPERaSLOPEaCOUNTERBOREhSINKaAPL_FUNCTIONAL_SYMBOL_I-BEAMwSQUISH_Q
    UADwQUAD_EQUALzcDIVIDEzeAMONDzcJOTzcCIRCLEwCIRCLE_STILEzeJOTwSLASH_BARwBACKSLASH_BARwQUAD_SLAS
    HzcBACKSLASHzcLESS-THANzcGREATER-THANwLEFTWARDS_VANEwRIGHTWARDS_VANEwQUAD_LEFTWARDS_ARROWzcRIG
    HTWARDS_ARROWwCIRCLE_BACKSLASHwDOWN_TACK_UNDERBARxELTA_STILEwQUAD_DOWN_CARETzdELTAwDOWN_TACK_J
    OTwUPWARDS_VANEwQUAD_UPWARDS_ARROWwUP_TACK_OVERBARwDEL_STILEwQUAD_UP_CARETzcDELwUP_TACK_JOTwDO
    WNWARDS_VANEwQUAD_DOWNWARDS_ARROWyOTE_UNDERBARwDELTA_UNDERBARxIAMOND_UNDERBARwJOT_UNDERBARwCIR
    CLE_UNDERBARwUP_SHOE_JOTwQUOTE_QUADwCIRCLE_STARwQUAD_COLONwUP_TACK_DIAERESISwDEL_DIAERESISwSTA
    R_DIAERESISwJOT_DIAERESISwCIRCLE_DIAERESISwDOWN_SHOE_STILEwLEFT_SHOE_STILEwTILDE_DIAERESISwGRE
    ATER-THAN_DIAERESISwCOMMA_BARwDEL_TILDEwZILDEwSTILE_TILDExEMICOLON_UNDERBARwQUAD_NOT_EQUALzcQU
    ESTIONwDOWN_CARET_TILDEwUP_CARET_TILDEwIOTAwRHOwOMEGAwALPHA_UNDERBARwEPSILON_UNDERBARwIOTA_UND
    ERBARwOMEGA_UNDERBARwALPHAaNOT_CHECK_MARKaRIGHT_ANGLE_WITH_DOWNWARDS_ZIGZAG_ARROWaSHOULDERED_O
    PEN_BOXaBELL_SYMBOLaVERTICAL_LINE_WITH_MIDDLE_DOTaINSERTION_SYMBOLaCONTINUOUS_UNDERLINE_SYMBOL
    aDISCONTINUOUS_UNDERLINE_SYMBOLaEMPHASIS_SYMBOLaCOMPOSITION_SYMBOLaWHITE_SQUARE_WITH_CENTRE_VE
    RTICAL_LINEaENTER_SYMBOLaALTERNATIVE_KEY_SYMBOLaHELM_SYMBOLaCIRCLED_HORIZONTAL_BAR_WITH_NOTCHi
    TRIANGLE_DOWNaBROKEN_CIRCLE_WITH_NORTHWEST_ARROWaUNDO_SYMBOLaMONOSTABLE_SYMBOLaHYSTERESIS_SYMB
    OLaOPEN-CIRCUIT-OUTPUT_H-TYPE_SYMBOLuL-TYPE_SYMBOLaPASSIVE-PULL-DOWN-OUTPUT_SYMBOLnUP-OUTPUT_S
    YMBOLaDIRECT_CURRENT_SYMBOL_FORM_TWOaSOFTWARE-FUNCTION_SYMBOLaAPL_FUNCTIONAL_SYMBOL_QUADaDECIM
    AL_SEPARATOR_KEY_SYMBOLaPREVIOUS_PAGEaNEXT_PAGEaPRINT_SCREEN_SYMBOLaCLEAR_SCREEN_SYMBOLaLEFT_P
    ARENTHESIS_UPPER_HOOKrEXTENSIONrLOWER_HOOKaRIGHT_PARENTHESIS_UPPER_HOOKsEXTENSIONsLOWER_HOOKaL
    EFT_SQUARE_BRACKET_UPPER_CORNERuEXTENSIONuLOWER_CORNERaRIGHT_SQUARE_BRACKET_UPPER_CORNERvEXTEN
    SIONvLOWER_CORNERaLEFT_CURLY_BRACKET_UPPER_HOOKtMIDDLE_PIECEtLOWER_HOOKaCURLY_BRACKET_EXTENSIO
    NaRIGHT_CURLY_BRACKET_UPPER_HOOKuMIDDLE_PIECEuLOWER_HOOKaINTEGRAL_EXTENSIONaHORIZONTAL_LINE_EX
    TENSIONaUPPER_LEFT_OR_LOWER_RIGHT_CURLY_BRACKET_SECTIONgRIGHT_OR_LOWER_LEFT_CURLY_BRACKET_SECT
    IONaSUMMATION_TOPkBOTTOMaTOP_SQUARE_BRACKETaBOTTOM_SQUARE_BRACKETv_OVER_TOP_SQUARE_BRACKETaRAD
    ICAL_SYMBOL_BOTTOMaLEFT_VERTICAL_BOX_LINEaRIGHT_VERTICAL_BOX_LINEaHORIZONTAL_SCAN_LINE-1v3v7v9
    aDENTISTRY_SYMBOL_LIGHT_VERTICAL_AND_TOP_RIGHTzlBOTTOM_RIGHTzhWITH_CIRCLExDOWN_AND_HORIZONTAL_
    WITH_CIRCLExUP_AND_HORIZONTAL_WITH_CIRCLExVERTICAL_WITH_TRIANGLExDOWN_AND_HORIZONTAL_WITH_TRIA
    NGLExUP_AND_HORIZONTAL_WITH_TRIANGLExVERTICAL_AND_WAVExDOWN_AND_HORIZONTAL_WITH_WAVExUP_AND_HO
    RIZONTAL_WITH_WAVExDOWN_AND_HORIZONTALxUP_AND_HORIZONTALxVERTICAL_AND_TOP_LEFTzlBOTTOM_LEFTaSQ
    UARE_FOOTaRETURN_SYMBOLaEJECT_SYMBOLaVERTICAL_LINE_EXTENSIONaMETRICAL_BREVEjLONG_OVER_SHORTjSH
    ORT_OVER_LONGjLONG_OVER_TWO_SHORTSjTWO_SHORTS_OVER_LONGuJOINEDkRISEMEkETRASEMEjPENTASEMEaEARTH
    _GROUNDaFUSEaTOP_PARENTHESISaBOTTOM_PARENTHESISaTOP_CURLY_BRACKETaBOTTOM_CURLY_BRACKETaTOP_TOR
    TOISE_SHELL_BRACKETaBOTTOM_TORTOISE_SHELL_BRACKETaWHITE_TRAPEZIUMaBENZENE_RING_WITH_CIRCLEaSTR
    AIGHTNESSaFLATNESSaAC_CURRENTaELECTRICAL_INTERSECTIONaDECIMAL_EXPONENT_SYMBOLaBLACK_RIGHT-POIN
    TING_DOUBLE_TRIANGLEgLEFT-POINTING_DOUBLE_TRIANGLEgUP-POINTING_DOUBLE_TRIANGLEgDOWN-POINTING_D
    OUBLE_TRIANGLEgRIGHT-POINTING_DOUBLE_TRIANGLE_WITH_VERTICAL_BARgLEFT-POINTING_DOUBLE_TRIANGLE_
    WITH_VERTICAL_BARgRIGHT-POINTING_TRIANGLE_WITH_DOUBLE_VERTICAL_BARaALARM_CLOCKaSTOPWATCHaTIMER
    _CLOCKaHOURGLASS_WITH_FLOWING_SANDaBLACK_MEDIUM_LEFT-POINTING_TRIANGLEnRIGHT-POINTING_TRIANGLE
    nUP-POINTING_TRIANGLEnDOWN-POINTING_TRIANGLEaDOUBLE_VERTICAL_BARaBLACK_SQUARE_FOR_STOPgCIRCLE_
    FOR_RECORDaPOWER_SYMBOLgON-OFF_SYMBOLi_SYMBOLgSLEEP_SYMBOLaOBSERVER_EYE_SYMBOLaSYMBOL_FOR_NULL
    lSTART_OF_HEADINGuTEXTlEND_OF_TEXTtRANSMISSIONnQUIRYlACKNOWLEDGElBELLmACKSPACElHORIZONTAL_TABU
    LATIONlLINE_FEEDlVERTICAL_TABULATIONlFORM_FEEDlCARRIAGE_RETURNlSHIFT_OUTrINlDATA_LINK_ESCAPEmE
    VICE_CONTROL_ONEzbTWOzcHREEzbFOURlNEGATIVE_ACKNOWLEDGElSYNCHRONOUS_IDLElEND_OF_TRANSMISSION_BL
    OCKlCANCELlEND_OF_MEDIUMlSUBSTITUTElESCAPElFILE_SEPARATORlGROUP_SEPARATORlRECORD_SEPARATORlUNI
    T_SEPARATORlSPACElDELETEaBLANK_SYMBOLaOPEN_BOXaSYMBOL_FOR_NEWLINElDELETE_FORM_TWOlSUBSTITUTE_F
    ORM_TWO=2440aOCR_HOOKeCHAIReFORKeINVERTED_FORKeBELT_BUCKLEfOW_TIEfRANCH_BANK_IDENTIFICATIONeAM
    OUNT_OF_CHECKeDASHeCUSTOMER_ACCOUNT_NUMBEReDOUBLE_BACKSLASH=2460aCIRCLED_DIGIT_ONEoTWOpHREEoFO
    URpIVEoSIXpEVENoEIGHToNINEiNUMBER_TENpELEVENpTWELVEqHIRTEENpFOURTEENqIFTEENpSIXTEENqEVENTEENpE
    IGHTEENpNINETEENpTWENTYaPARENTHESIZED_DIGIT_ONEuTWOvHREEuFOURvIVEuSIXvEVENuEIGHTuNINEoNUMBER_T
    ENvELEVENvTWELVEwHIRTEENvFOURTEENwIFTEENvSIXTEENwEVENTEENvEIGHTEENvNINETEENvTWENTYaDIGIT_ONE_F
    ULL_STOPgTWO_FULL_STOPhHREE_FULL_STOPgFOUR_FULL_STOPhIVE_FULL_STOPgSIX_FULL_STOPhEVEN_FULL_STO
    PgEIGHT_FULL_STOPgNINE_FULL_STOPaNUMBER_TEN_FULL_STOPhELEVEN_FULL_STOPhTWELVE_FULL_STOPiHIRTEE
    N_FULL_STOPhFOURTEEN_FULL_STOPiIFTEEN_FULL_STOPhSIXTEEN_FULL_STOPiEVENTEEN_FULL_STOPhEIGHTEEN_
    FULL_STOPhNINETEEN_FULL_STOPhTWENTY_FULL_STOPaPARENTHESIZED_LATIN_SMALL_LETTER_AziBziCziDziEzi
    FziGziHziIziJziKziLziMziNziOziPziQziRziSziTziUziVziWziXziYziZaCIRCLED_LATIN_CAPITAL_LETTER_Aze
    BzeCzeDzeEzeFzeGzeHzeIzeJzeKzeLzeMzeNzeOzePzeQzeRzeSzeTzeUzeVzeWzeXzeYzeZoSMALL_LETTER_AzcBzcC
    zcDzcEzcFzcGzcHzcIzcJzcKzcLzcMzcNzcOzcPzcQzcRzcSzcTzcUzcVzcWzcXzcYzcZiDIGIT_ZEROaNEGATIVE_CIRC
    LED_NUMBER_ELEVENyTWELVEzHIRTEENyFOURTEENzIFTEENySIXTEENzEVENTEENyEIGHTEENyNINETEENyTWENTYaDOU
    BLE_CIRCLED_DIGIT_ONEvTWOwHREEvFOURwIVEvSIXwEVENvEIGHTvNINEpNUMBER_TENaNEGATIVE_CIRCLED_DIGIT_
    ZEROaBOX_DRAWINGS_LIGHT_HORIZONTALnHEAVY_HORIZONTALnLIGHT_VERTICALnHEAVY_VERTICALnLIGHT_TRIPLE
    _DASH_HORIZONTALnHEAVY_TRIPLE_DASH_HORIZONTALnLIGHT_TRIPLE_DASH_VERTICALnHEAVY_TRIPLE_DASH_VER
    TICALnLIGHT_QUADRUPLE_DASH_HORIZONTALnHEAVY_QUADRUPLE_DASH_HORIZONTALnLIGHT_QUADRUPLE_DASH_VER
    TICALnHEAVY_QUADRUPLE_DASH_VERTICALnLIGHT_DOWN_AND_RIGHTnDOWN_LIGHT_AND_RIGHT_HEAVYsHEAVY_AND_
    RIGHT_LIGHTnHEAVY_DOWN_AND_RIGHTnLIGHT_DOWN_AND_LEFTnDOWN_LIGHT_AND_LEFT_HEAVYsHEAVY_AND_LEFT_
    LIGHTnHEAVY_DOWN_AND_LEFTnLIGHT_UP_AND_RIGHTnUP_LIGHT_AND_RIGHT_HEAVYqHEAVY_AND_RIGHT_LIGHTnHE
    AVY_UP_AND_RIGHTnLIGHT_UP_AND_LEFTnUP_LIGHT_AND_LEFT_HEAVYqHEAVY_AND_LEFT_LIGHTnHEAVY_UP_AND_L
    EFTnLIGHT_VERTICAL_AND_RIGHTnVERTICAL_LIGHT_AND_RIGHT_HEAVYnUP_HEAVY_AND_RIGHT_DOWN_LIGHTnDOWN
    _HEAVY_AND_RIGHT_UP_LIGHTnVERTICAL_HEAVY_AND_RIGHT_LIGHTnDOWN_LIGHT_AND_RIGHT_UP_HEAVYnUP_LIGH
    T_AND_RIGHT_DOWN_HEAVYnHEAVY_VERTICAL_AND_RIGHTnLIGHT_VERTICAL_AND_LEFTnVERTICAL_LIGHT_AND_LEF
    T_HEAVYnUP_HEAVY_AND_LEFT_DOWN_LIGHTnDOWN_HEAVY_AND_LEFT_UP_LIGHTnVERTICAL_HEAVY_AND_LEFT_LIGH
    TnDOWN_LIGHT_AND_LEFT_UP_HEAVYnUP_LIGHT_AND_LEFT_DOWN_HEAVYnHEAVY_VERTICAL_AND_LEFTnLIGHT_DOWN
    _AND_HORIZONTALoEFT_HEAVY_AND_RIGHT_DOWN_LIGHTnRIGHT_HEAVY_AND_LEFT_DOWN_LIGHTnDOWN_LIGHT_AND_
    HORIZONTAL_HEAVYsHEAVY_AND_HORIZONTAL_LIGHTnRIGHT_LIGHT_AND_LEFT_DOWN_HEAVYnLEFT_LIGHT_AND_RIG
    HT_DOWN_HEAVYnHEAVY_DOWN_AND_HORIZONTALnLIGHT_UP_AND_HORIZONTALoEFT_HEAVY_AND_RIGHT_UP_LIGHTnR
    IGHT_HEAVY_AND_LEFT_UP_LIGHTnUP_LIGHT_AND_HORIZONTAL_HEAVYqHEAVY_AND_HORIZONTAL_LIGHTnRIGHT_LI
    GHT_AND_LEFT_UP_HEAVYnLEFT_LIGHT_AND_RIGHT_UP_HEAVYnHEAVY_UP_AND_HORIZONTALnLIGHT_VERTICAL_AND
    _HORIZONTALoEFT_HEAVY_AND_RIGHT_VERTICAL_LIGHTnRIGHT_HEAVY_AND_LEFT_VERTICAL_LIGHTnVERTICAL_LI
    GHT_AND_HORIZONTAL_HEAVYnUP_HEAVY_AND_DOWN_HORIZONTAL_LIGHTnDOWN_HEAVY_AND_UP_HORIZONTAL_LIGHT
    nVERTICAL_HEAVY_AND_HORIZONTAL_LIGHTnLEFT_UP_HEAVY_AND_RIGHT_DOWN_LIGHTnRIGHT_UP_HEAVY_AND_LEF
    T_DOWN_LIGHTnLEFT_DOWN_HEAVY_AND_RIGHT_UP_LIGHTnRIGHT_DOWN_HEAVY_AND_LEFT_UP_LIGHTnDOWN_LIGHT_
    AND_UP_HORIZONTAL_HEAVYnUP_LIGHT_AND_DOWN_HORIZONTAL_HEAVYnRIGHT_LIGHT_AND_LEFT_VERTICAL_HEAVY
    nLEFT_LIGHT_AND_RIGHT_VERTICAL_HEAVYnHEAVY_VERTICAL_AND_HORIZONTALnLIGHT_DOUBLE_DASH_HORIZONTA
    LnHEAVY_DOUBLE_DASH_HORIZONTALnLIGHT_DOUBLE_DASH_VERTICALnHEAVY_DOUBLE_DASH_VERTICALnDOUBLE_HO
    RIZONTALuVERTICALpWN_SINGLE_AND_RIGHT_DOUBLEsDOUBLE_AND_RIGHT_SINGLEpUBLE_DOWN_AND_RIGHTpWN_SI
    NGLE_AND_LEFT_DOUBLEsDOUBLE_AND_LEFT_SINGLEpUBLE_DOWN_AND_LEFTnUP_SINGLE_AND_RIGHT_DOUBLEqDOUB
    LE_AND_RIGHT_SINGLEnDOUBLE_UP_AND_RIGHTnUP_SINGLE_AND_LEFT_DOUBLEqDOUBLE_AND_LEFT_SINGLEnDOUBL
    E_UP_AND_LEFTnVERTICAL_SINGLE_AND_RIGHT_DOUBLEwDOUBLE_AND_RIGHT_SINGLEnDOUBLE_VERTICAL_AND_RIG
    HTnVERTICAL_SINGLE_AND_LEFT_DOUBLEwDOUBLE_AND_LEFT_SINGLEnDOUBLE_VERTICAL_AND_LEFTpWN_SINGLE_A
    ND_HORIZONTAL_DOUBLEsDOUBLE_AND_HORIZONTAL_SINGLEpUBLE_DOWN_AND_HORIZONTALnUP_SINGLE_AND_HORIZ
    ONTAL_DOUBLEqDOUBLE_AND_HORIZONTAL_SINGLEnDOUBLE_UP_AND_HORIZONTALnVERTICAL_SINGLE_AND_HORIZON
    TAL_DOUBLEwDOUBLE_AND_HORIZONTAL_SINGLEnDOUBLE_VERTICAL_AND_HORIZONTALnLIGHT_ARC_DOWN_AND_RIGH
    TzhLEFTxUP_AND_LEFTzfRIGHTtDIAGONAL_UPPER_RIGHT_TO_LOWER_LEFTzjLEFT_TO_LOWER_RIGHTzdCROSStLEFT
    tUPtRIGHTtDOWNnHEAVY_LEFTtUPtRIGHTtDOWNnLIGHT_LEFT_AND_HEAVY_RIGHTtUP_AND_HEAVY_DOWNnHEAVY_LEF
    T_AND_LIGHT_RIGHTtUP_AND_LIGHT_DOWNaUPPER_HALF_BLOCKaLOWER_ONE_EIGHTH_BLOCKkQUARTER_BLOCKgTHRE
    E_EIGHTHS_BLOCKgHALF_BLOCKgFIVE_EIGHTHS_BLOCKgTHREE_QUARTERS_BLOCKgSEVEN_EIGHTHS_BLOCKaFULL_BL
    OCKaLEFT_SEVEN_EIGHTHS_BLOCKfTHREE_QUARTERS_BLOCKfFIVE_EIGHTHS_BLOCKfHALF_BLOCKfTHREE_EIGHTHS_
    BLOCKfONE_QUARTER_BLOCKjEIGHTH_BLOCKaRIGHT_HALF_BLOCKaLIGHT_SHADEaMEDIUM_SHADEaDARK_SHADEaUPPE
    R_ONE_EIGHTH_BLOCKaRIGHT_ONE_EIGHTH_BLOCKaQUADRANT_LOWER_LEFTpRIGHTjUPPER_LEFTt_AND_LOWER_LEFT
    _AND_LOWER_RIGHTzfRIGHTyUPPER_RIGHT_AND_LOWER_LEFTzvRIGHTpRIGHTu_AND_LOWER_LEFTzk_AND_LOWER_RI
    GHTaBLACK_SQUAREaWHITE_SQUAREm_WITH_ROUNDED_CORNERSnCONTAINING_BLACK_SMALL_SQUAREaSQUARE_WITH_
    HORIZONTAL_FILLmVERTICAL_FILLmORTHOGONAL_CROSSHATCH_FILLmUPPER_LEFT_TO_LOWER_RIGHT_FILLsRIGHT_
    TO_LOWER_LEFT_FILLmDIAGONAL_CROSSHATCH_FILLaBLACK_SMALL_SQUAREaWHITE_SMALL_SQUAREaBLACK_RECTAN
    GLEaWHITE_RECTANGLEaBLACK_VERTICAL_RECTANGLEaWHITE_VERTICAL_RECTANGLEaBLACK_PARALLELOGRAMaWHIT
    E_PARALLELOGRAMaBLACK_UP-POINTING_TRIANGLEaWHITE_UP-POINTING_TRIANGLEaBLACK_UP-POINTING_SMALL_
    TRIANGLEaWHITE_UP-POINTING_SMALL_TRIANGLEaBLACK_RIGHT-POINTING_TRIANGLEaWHITE_RIGHT-POINTING_T
    RIANGLEaBLACK_RIGHT-POINTING_SMALL_TRIANGLEaWHITE_RIGHT-POINTING_SMALL_TRIANGLEaBLACK_RIGHT-PO
    INTING_POINTERaWHITE_RIGHT-POINTING_POINTERaBLACK_DOWN-POINTING_TRIANGLEaWHITE_DOWN-POINTING_T
    RIANGLEaBLACK_DOWN-POINTING_SMALL_TRIANGLEaWHITE_DOWN-POINTING_SMALL_TRIANGLEaBLACK_LEFT-POINT
    ING_TRIANGLEaWHITE_LEFT-POINTING_TRIANGLEaBLACK_LEFT-POINTING_SMALL_TRIANGLEaWHITE_LEFT-POINTI
    NG_SMALL_TRIANGLEaBLACK_LEFT-POINTING_POINTERaWHITE_LEFT-POINTING_POINTERaBLACK_DIAMONDaWHITE_
    DIAMONDn_CONTAINING_BLACK_SMALL_DIAMONDaFISHEYEaLOZENGEaWHITE_CIRCLEaDOTTED_CIRCLEaCIRCLE_WITH
    _VERTICAL_FILLaBULLSEYEbLACK_CIRCLEaCIRCLE_WITH_LEFT_HALF_BLACKmRIGHT_HALF_BLACKmLOWER_HALF_BL
    ACKmUPPER_HALF_BLACKsRIGHT_QUADRANT_BLACKmALL_BUT_UPPER_LEFT_QUADRANT_BLACKaLEFT_HALF_BLACK_CI
    RCLEaRIGHT_HALF_BLACK_CIRCLEaINVERSE_BULLETiWHITE_CIRCLEaUPPER_HALF_INVERSE_WHITE_CIRCLEaLOWER
    _HALF_INVERSE_WHITE_CIRCLEaUPPER_LEFT_QUADRANT_CIRCULAR_ARCgRIGHT_QUADRANT_CIRCULAR_ARCaLOWER_
    RIGHT_QUADRANT_CIRCULAR_ARCgLEFT_QUADRANT_CIRCULAR_ARCaUPPER_HALF_CIRCLEaLOWER_HALF_CIRCLEaBLA
    CK_LOWER_RIGHT_TRIANGLEmLEFT_TRIANGLEgUPPER_LEFT_TRIANGLEmRIGHT_TRIANGLEaWHITE_BULLETaSQUARE_W
    ITH_LEFT_HALF_BLACKmRIGHT_HALF_BLACKmUPPER_LEFT_DIAGONAL_HALF_BLACKmLOWER_RIGHT_DIAGONAL_HALF_
    BLACKaWHITE_SQUARE_WITH_VERTICAL_BISECTING_LINEgUP-POINTING_TRIANGLE_WITH_DOTaUP-POINTING_TRIA
    NGLE_WITH_LEFT_HALF_BLACKzbRIGHT_HALF_BLACKaLARGE_CIRCLEaWHITE_SQUARE_WITH_UPPER_LEFT_QUADRANT
    sLOWER_LEFT_QUADRANTyRIGHT_QUADRANTsUPPER_RIGHT_QUADRANTgCIRCLE_WITH_UPPER_LEFT_QUADRANTsLOWER
    _LEFT_QUADRANTyRIGHT_QUADRANTsUPPER_RIGHT_QUADRANTaUPPER_LEFT_TRIANGLEgRIGHT_TRIANGLEaLOWER_LE
    FT_TRIANGLEaWHITE_MEDIUM_SQUAREaBLACK_MEDIUM_SQUAREaWHITE_MEDIUM_SMALL_SQUAREaBLACK_MEDIUM_SMA
    LL_SQUAREaLOWER_RIGHT_TRIANGLEaBLACK_SUN_WITH_RAYSaCLOUDaUMBRELLAaSNOWMANaCOMETaBLACK_STARaWHI
    TE_STARaLIGHTNINGaTHUNDERSTORMaSUNaASCENDING_NODEaDESCENDING_NODEaCONJUNCTIONaOPPOSITIONaBLACK
    _TELEPHONEaWHITE_TELEPHONEaBALLOT_BOXk_WITH_CHECKqXaSALTIREaUMBRELLA_WITH_RAIN_DROPSaHOT_BEVER
    AGEaWHITE_SHOGI_PIECEaBLACK_SHOGI_PIECEaSHAMROCKaREVERSED_ROTATED_FLORAL_HEART_BULLETaBLACK_LE
    FT_POINTING_INDEXgRIGHT_POINTING_INDEXaWHITE_LEFT_POINTING_INDEXgUP_POINTING_INDEXgRIGHT_POINT
    ING_INDEXgDOWN_POINTING_INDEXaSKULL_AND_CROSSBONESaCAUTION_SIGNaRADIOACTIVE_SIGNaBIOHAZARD_SIG
    NaCADUCEUSaANKHaORTHODOX_CROSSaCHI_RHObROSS_OF_LORRAINEjJERUSALEMaSTAR_AND_CRESCENTaFARSI_SYMB
    OLaADI_SHAKTIaHAMMER_AND_SICKLEaPEACE_SYMBOLaYIN_YANGaTRIGRAM_FOR_HEAVENmLAKEmFIREmTHUNDERmWIN
    DnATERmMOUNTAINmEARTHaWHEEL_OF_DHARMAcITE_FROWNING_FACEgSMILING_FACEaBLACK_SMILING_FACEaWHITE_
    SUN_WITH_RAYSaFIRST_QUARTER_MOONaLAST_QUARTER_MOONaMERCURYaFEMALE_SIGNaEARTHaMALE_SIGNaJUPITER
    aSATURNaURANUSaNEPTUNEaPLUTOaARIESaTAURUSaGEMINIaCANCERaLEOaVIRGOaLIBRAaSCORPIUSbAGITTARIUSaCA
    PRICORNaAQUARIUSaPISCESaWHITE_CHESS_KINGmQUEENmROOKmBISHOPmKNIGHTmPAWNaBLACK_CHESS_KINGmQUEENm
    ROOKmBISHOPmKNIGHTmPAWNgSPADE_SUITaWHITE_HEART_SUITgDIAMOND_SUITaBLACK_CLUB_SUITaWHITE_SPADE_S
    UITaBLACK_HEART_SUITgDIAMOND_SUITaWHITE_CLUB_SUITaHOT_SPRINGSaQUARTER_NOTEaEIGHTH_NOTEaBEAMED_
    EIGHTH_NOTEShSIXTEENTH_NOTESaMUSIC_FLAT_SIGNgNATURAL_SIGNgSHARP_SIGNaWEST_SYRIAC_CROSSaEAST_SY
    RIAC_CROSSaUNIVERSAL_RECYCLING_SYMBOLaRECYCLING_SYMBOL_FOR_TYPE-1_PLASTICSzb2_PLASTICSzb3_PLAS
    TICSzb4_PLASTICSzb5_PLASTICSzb6_PLASTICSzb7_PLASTICSvGENERIC_MATERIALSaBLACK_UNIVERSAL_RECYCLI
    NG_SYMBOLaRECYCLED_PAPER_SYMBOLaPARTIALLY-RECYCLED_PAPER_SYMBOLbERMANENT_PAPER_SIGNaWHEELCHAIR
    _SYMBOLaDIE_FACE-1j2j3j4j5j6aWHITE_CIRCLE_WITH_DOT_RIGHTsTWO_DOTSaBLACK_CIRCLE_WITH_WHITE_DOT_
    RIGHTsTWO_WHITE_DOTSaMONOGRAM_FOR_YANGoINaDIGRAM_FOR_GREATER_YANGlLESSER_YINtANGlGREATER_YINaW
    HITE_FLAGaBLACK_FLAGaHAMMER_AND_PICKaANCHORaCROSSED_SWORDSaSTAFF_OF_AESCULAPIUSbCALESaALEMBICa
    FLOWERaGEARaSTAFF_OF_HERMESaATOM_SYMBOLaFLEUR-DE-LISaOUTLINED_WHITE_STARaTHREE_LINES_CONVERGIN
    G_RIGHTxLEFTaWARNING_SIGNaHIGH_VOLTAGE_SIGNaDOUBLED_FEMALE_SIGNiMALE_SIGNaINTERLOCKED_FEMALE_A
    ND_MALE_SIGNaMALE_AND_FEMALE_SIGNfWITH_STROKE_SIGNrAND_MALE_AND_FEMALE_SIGNaVERTICAL_MALE_WITH
    _STROKE_SIGNaHORIZONTAL_MALE_WITH_STROKE_SIGNaMEDIUM_WHITE_CIRCLEhBLACK_CIRCLEhSMALL_WHITE_CIR
    CLEbARRIAGE_SYMBOLaDIVORCE_SYMBOLaUNMARRIED_PARTNERSHIP_SYMBOLaCOFFINaFUNERAL_URNaNEUTERaCERES
    aPALLASaJUNOaVESTAaCHIRONaBLACK_MOON_LILITHaSEXTILEcMISEXTILEaQUINCUNXaSESQUIQUADRATEbOCCER_BA
    LLaBASEBALLaSQUARED_KEYaWHITE_DRAUGHTS_MANpKINGaBLACK_DRAUGHTS_MANpKINGaSNOWMAN_WITHOUT_SNOWbU
    N_BEHIND_CLOUDaRAINaBLACK_SNOWMANaTHUNDER_CLOUD_AND_RAINbURNED_WHITE_SHOGI_PIECEhBLACK_SHOGI_P
    IECEaWHITE_DIAMOND_IN_SQUAREaCROSSING_LANESaDISABLED_CARaOPHIUCHUSaPICKaCAR_SLIDINGaHELMET_WIT
    H_WHITE_CROSSaCIRCLED_CROSSING_LANESbHAINSaNO_ENTRYaALTERNATE_ONE-WAY_LEFT_WAY_TRAFFICaBLACK_T
    WO-WAY_LEFT_WAY_TRAFFICaWHITE_TWO-WAY_LEFT_WAY_TRAFFICaBLACK_LEFT_LANE_MERGEaWHITE_LEFT_LANE_M
    ERGEaDRIVE_SLOW_SIGNaHEAVY_WHITE_DOWN-POINTING_TRIANGLEaLEFT_CLOSED_ENTRYaSQUARED_SALTIREaFALL
    ING_DIAGONAL_IN_WHITE_CIRCLE_IN_BLACK_SQUAREaBLACK_TRUCKaRESTRICTED_LEFT_ENTRY-1w2aASTRONOMICA
    L_SYMBOL_FOR_URANUSaHEAVY_CIRCLE_WITH_STROKE_AND_TWO_DOTS_ABOVEaPENTAGRAMaRIGHT-HANDED_INTERLA
    CED_PENTAGRAMaLEFT-HANDED_INTERLACED_PENTAGRAMaINVERTED_PENTAGRAMaBLACK_CROSS_ON_SHIELDaSHINTO
    _SHRINEaCHURCHbASTLEaHISTORIC_SITEaGEAR_WITHOUT_HUBj_HANDLESaMAP_SYMBOL_FOR_LIGHTHOUSEbOUNTAIN
    aUMBRELLA_ON_GROUNDaFOUNTAINbLAG_IN_HOLEbERRYaSAILBOATbQUARE_FOUR_CORNERSbKIERaICE_SKATEaPERSO
    N_WITH_BALLaTENTaJAPANESE_BANK_SYMBOLaHEADSTONE_GRAVEYARD_SYMBOLaFUEL_PUMPaCUP_ON_BLACK_SQUARE
    aWHITE_FLAG_WITH_HORIZONTAL_MIDDLE_BLACK_STRIPEaBLACK_SAFETY_SCISSORSaUPPER_BLADE_SCISSORSaBLA
    CK_SCISSORSaLOWER_BLADE_SCISSORSaWHITE_SCISSORSgHEAVY_CHECK_MARKaTELEPHONE_LOCATION_SIGNbAPE_D
    RIVEaAIRPLANEaENVELOPEaRAISED_FISThHANDaVICTORY_HANDaWRITING_HANDaLOWER_RIGHT_PENCILaPENCILaUP
    PER_RIGHT_PENCILaWHITE_NIBaBLACK_NIBaCHECK_MARKaHEAVY_CHECK_MARKaMULTIPLICATION_XaHEAVY_MULTIP
    LICATION_XaBALLOT_XaHEAVY_BALLOT_XaOUTLINED_GREEK_CROSSaHEAVY_GREEK_CROSSaOPEN_CENTRE_CROSSaHE
    AVY_OPEN_CENTRE_CROSSaLATIN_CROSSaSHADOWED_WHITE_LATIN_CROSSaOUTLINED_LATIN_CROSSaMALTESE_CROS
    SaSTAR_OF_DAVIDaFOUR_TEARDROP-SPOKED_ASTERISKfBALLOON-SPOKED_ASTERISKaHEAVY_FOUR_BALLOON-SPOKE
    D_ASTERISKaFOUR_CLUB-SPOKED_ASTERISKaBLACK_FOUR_POINTED_STARaWHITE_FOUR_POINTED_STARaSPARKLESb
    TRESS_OUTLINED_WHITE_STARaCIRCLED_WHITE_STARaOPEN_CENTRE_BLACK_STARaBLACK_CENTRE_WHITE_STARaOU
    TLINED_BLACK_STARaHEAVY_OUTLINED_BLACK_STARaPINWHEEL_STARaSHADOWED_WHITE_STARaHEAVY_ASTERISKaO
    PEN_CENTRE_ASTERISKaEIGHT_SPOKED_ASTERISKgPOINTED_BLACK_STARoPINWHEEL_STARaSIX_POINTED_BLACK_S
    TARaEIGHT_POINTED_RECTILINEAR_BLACK_STARaHEAVY_EIGHT_POINTED_RECTILINEAR_BLACK_STARaTWELVE_POI
    NTED_BLACK_STARaSIXTEEN_POINTED_ASTERISKaTEARDROP-SPOKED_ASTERISKaOPEN_CENTRE_TEARDROP-SPOKED_
    ASTERISKaHEAVY_TEARDROP-SPOKED_ASTERISKaSIX_PETALLED_BLACK_AND_WHITE_FLORETTEaBLACK_FLORETTEaW
    HITE_FLORETTEaEIGHT_PETALLED_OUTLINED_BLACK_FLORETTEaCIRCLED_OPEN_CENTRE_EIGHT_POINTED_STARaHE
    AVY_TEARDROP-SPOKED_PINWHEEL_ASTERISKaSNOWFLAKEaTIGHT_TRIFOLIATE_SNOWFLAKEaHEAVY_CHEVRON_SNOWF
    LAKEaSPARKLEaHEAVY_SPARKLEaBALLOON-SPOKED_ASTERISKaEIGHT_TEARDROP-SPOKED_PROPELLER_ASTERISKaHE
    AVY_EIGHT_TEARDROP-SPOKED_PROPELLER_ASTERISKaCROSS_MARKaSHADOWED_WHITE_CIRCLEaNEGATIVE_SQUARED
    _CROSS_MARKaLOWER_RIGHT_DROP-SHADOWED_WHITE_SQUAREaUPPER_RIGHT_DROP-SHADOWED_WHITE_SQUAREaLOWE
    R_RIGHT_SHADOWED_WHITE_SQUAREaUPPER_RIGHT_SHADOWED_WHITE_SQUAREaBLACK_QUESTION_MARK_ORNAMENTaW
    HITE_QUESTION_MARK_ORNAMENTgEXCLAMATION_MARK_ORNAMENTaBLACK_DIAMOND_MINUS_WHITE_XaHEAVY_EXCLAM
    ATION_MARK_SYMBOLaLIGHT_VERTICAL_BARaMEDIUM_VERTICAL_BARaHEAVY_VERTICAL_BARgSINGLE_TURNED_COMM
    A_QUOTATION_MARK_ORNAMENTnCOMMA_QUOTATION_MARK_ORNAMENTgDOUBLE_TURNED_COMMA_QUOTATION_MARK_ORN
    AMENTnCOMMA_QUOTATION_MARK_ORNAMENTgLOW_SINGLE_COMMA_QUOTATION_MARK_ORNAMENTkDOUBLE_COMMA_QUOT
    ATION_MARK_ORNAMENTaCURVED_STEM_PARAGRAPH_SIGN_ORNAMENTaHEAVY_EXCLAMATION_MARK_ORNAMENTgHEART_
    EXCLAMATION_MARK_ORNAMENTgBLACK_HEARTaROTATED_HEAVY_BLACK_HEART_BULLETaFLORAL_HEARTaROTATED_FL
    ORAL_HEART_BULLETaMEDIUM_LEFT_PARENTHESIS_ORNAMENThRIGHT_PARENTHESIS_ORNAMENThFLATTENED_LEFT_P
    ARENTHESIS_ORNAMENTrRIGHT_PARENTHESIS_ORNAMENThLEFT-POINTING_ANGLE_BRACKET_ORNAMENThRIGHT-POIN
    TING_ANGLE_BRACKET_ORNAMENTaHEAVY_LEFT-POINTING_ANGLE_QUOTATION_MARK_ORNAMENTgRIGHT-POINTING_A
    NGLE_QUOTATION_MARK_ORNAMENTgLEFT-POINTING_ANGLE_BRACKET_ORNAMENTgRIGHT-POINTING_ANGLE_BRACKET
    _ORNAMENTaLIGHT_LEFT_TORTOISE_SHELL_BRACKET_ORNAMENTgRIGHT_TORTOISE_SHELL_BRACKET_ORNAMENTaMED
    IUM_LEFT_CURLY_BRACKET_ORNAMENThRIGHT_CURLY_BRACKET_ORNAMENTaDINGBAT_NEGATIVE_CIRCLED_DIGIT_ON
    EzgTWOzhHREEzgFOURzhIVEzgSIXzhEVENzgEIGHTzgNINEzNUMBER_TENiCIRCLED_SANS-SERIF_DIGIT_ONEziTWOzj
    HREEziFOURzjIVEziSIXzjEVENziEIGHTziNINEzcNUMBER_TENiNEGATIVE_CIRCLED_SANS-SERIF_DIGIT_ONEzrTWO
    zsHREEzrFOURzsIVEzrSIXzsEVENzrEIGHTzrNINEzlNUMBER_TENaHEAVY_WIDE-HEADED_RIGHTWARDS_ARROWgPLUS_
    SIGNgMINUS_SIGNgDIVISION_SIGNgSOUTH_EAST_ARROWgRIGHTWARDS_ARROWgNORTH_EAST_ARROWaDRAFTING_POIN
    T_RIGHTWARDS_ARROWaHEAVY_ROUND-TIPPED_RIGHTWARDS_ARROWaTRIANGLE-HEADED_RIGHTWARDS_ARROWaHEAVY_
    TRIANGLE-HEADED_RIGHTWARDS_ARROWaDASHED_TRIANGLE-HEADED_RIGHTWARDS_ARROWaHEAVY_DASHED_TRIANGLE
    -HEADED_RIGHTWARDS_ARROWaBLACK_RIGHTWARDS_ARROWaTHREE-D_TOP-LIGHTED_RIGHTWARDS_ARROWHEADiBOTTO
    M-LIGHTED_RIGHTWARDS_ARROWHEADaBLACK_RIGHTWARDS_ARROWHEADaHEAVY_BLACK_CURVED_DOWNWARDS_AND_RIG
    HTWARDS_ARROWtUPWARDS_AND_RIGHTWARDS_ARROWaSQUAT_BLACK_RIGHTWARDS_ARROWaHEAVY_CONCAVE-POINTED_
    BLACK_RIGHTWARDS_ARROWaRIGHT-SHADED_WHITE_RIGHTWARDS_ARROWaLEFT-SHADED_WHITE_RIGHTWARDS_ARROWa
    BACK-TILTED_SHADOWED_WHITE_RIGHTWARDS_ARROWaFRONT-TILTED_SHADOWED_WHITE_RIGHTWARDS_ARROWaHEAVY
    _LOWER_RIGHT-SHADOWED_WHITE_RIGHTWARDS_ARROWgUPPER_RIGHT-SHADOWED_WHITE_RIGHTWARDS_ARROWaNOTCH
    ED_LOWER_RIGHT-SHADOWED_WHITE_RIGHTWARDS_ARROWaCURLY_LOOPaNOTCHED_UPPER_RIGHT-SHADOWED_WHITE_R
    IGHTWARDS_ARROWaCIRCLED_HEAVY_WHITE_RIGHTWARDS_ARROWaWHITE-FEATHERED_RIGHTWARDS_ARROWaBLACK-FE
    ATHERED_SOUTH_EAST_ARROWqRIGHTWARDS_ARROWqNORTH_EAST_ARROWaHEAVY_BLACK-FEATHERED_SOUTH_EAST_AR
    ROWwRIGHTWARDS_ARROWwNORTH_EAST_ARROWaTEARDROP-BARBED_RIGHTWARDS_ARROWaHEAVY_TEARDROP-SHANKED_
    RIGHTWARDS_ARROWaWEDGE-TAILED_RIGHTWARDS_ARROWaHEAVY_WEDGE-TAILED_RIGHTWARDS_ARROWaOPEN-OUTLIN
    ED_RIGHTWARDS_ARROWaDOUBLE_CURLY_LOOPaTHREE_DIMENSIONAL_ANGLEaWHITE_TRIANGLE_CONTAINING_SMALL_
    WHITE_TRIANGLEaPERPENDICULARaOPEN_SUBSEThPERSETaLEFT_S-SHAPED_BAG_DELIMITERaRIGHT_S-SHAPED_BAG
    _DELIMITERaOR_WITH_DOT_INSIDEaREVERSE_SOLIDUS_PRECEDING_SUBSETaSUPERSET_PRECEDING_SOLIDUSaVERT
    ICAL_BAR_WITH_HORIZONTAL_STROKEaMATHEMATICAL_RISING_DIAGONALaLONG_DIVISIONaMATHEMATICAL_FALLIN
    G_DIAGONALaSQUARED_LOGICAL_ANDqORaWHITE_DIAMOND_WITH_CENTRED_DOTaAND_WITH_DOTaELEMENT_OF_OPENI
    NG_UPWARDSaLOWER_RIGHT_CORNER_WITH_DOTaUPPER_LEFT_CORNER_WITH_DOTaLEFT_OUTER_JOINaRIGHT_OUTER_
    JOINaFULL_OUTER_JOINaLARGE_UP_TACKgDOWN_TACKbEFT_AND_RIGHT_DOUBLE_TURNSTILEpTACKfMULTIMAPbONG_
    RIGHT_TACKfLEFT_TACKaUP_TACK_WITH_CIRCLE_ABOVEaLOZENGE_DIVIDED_BY_HORIZONTAL_RULEaWHITE_CONCAV
    E-SIDED_DIAMONDzc_WITH_LEFTWARDS_TICKziRIGHTWARDS_TICKgSQUARE_WITH_LEFTWARDS_TICKsRIGHTWARDS_T
    ICKaMATHEMATICAL_LEFT_WHITE_SQUARE_BRACKETnRIGHT_WHITE_SQUARE_BRACKETnLEFT_ANGLE_BRACKETnRIGHT
    _ANGLE_BRACKETnLEFT_DOUBLE_ANGLE_BRACKETnRIGHT_DOUBLE_ANGLE_BRACKETnLEFT_WHITE_TORTOISE_SHELL_
    BRACKETnRIGHT_WHITE_TORTOISE_SHELL_BRACKETnLEFT_FLATTENED_PARENTHESISnRIGHT_FLATTENED_PARENTHE
    SISaUPWARDS_QUADRUPLE_ARROWaDOWNWARDS_QUADRUPLE_ARROWaANTICLOCKWISE_GAPPED_CIRCLE_ARROWaCLOCKW
    ISE_GAPPED_CIRCLE_ARROWaRIGHT_ARROW_WITH_CIRCLED_PLUSaLONG_LEFTWARDS_ARROWfRIGHTWARDS_ARROWfLE
    FT_RIGHT_ARROWjWARDS_DOUBLE_ARROWfRIGHTWARDS_DOUBLE_ARROWfLEFT_RIGHT_DOUBLE_ARROWjWARDS_ARROW_
    FROM_BARfRIGHTWARDS_ARROW_FROM_BARfLEFTWARDS_DOUBLE_ARROW_FROM_BARfRIGHTWARDS_DOUBLE_ARROW_FRO
    M_BARqSQUIGGLE_ARROWaBRAILLE_PATTERN_BLANKqDOTS-1v2v12v3v13v23v123v4v14v24v124v34v134v234v1234
    v5v15v25v125v35v135v235v1235v45v145v245v1245v345v1345v2345v12345v6v16v26v126v36v136v236v1236v4
    6v146v246v1246v346v1346v2346v12346v56v156v256v1256v356v1356v2356v12356v456v1456v2456v12456v345
    6v13456v23456v123456v7v17v27v127v37v137v237v1237v47v147v247v1247v347v1347v2347v12347v57v157v25
    7v1257v357v1357v2357v12357v457v1457v2457v12457v3457v13457v23457v123457v67v167v267v1267v367v136
    7v2367v12367v467v1467v2467v12467v3467v13467v23467v123467v567v1567v2567v12567v3567v13567v23567v
    123567v4567v14567v24567v124567v34567v134567v234567v1234567v8v18v28v128v38v138v238v1238v48v148v
    248v1248v348v1348v2348v12348v58v158v258v1258v358v1358v2358v12358v458v1458v2458v12458v3458v1345
    8v23458v123458v68v168v268v1268v368v1368v2368v12368v468v1468v2468v12468v3468v13468v23468v123468
    v568v1568v2568v12568v3568v13568v23568v123568v4568v14568v24568v124568v34568v134568v234568v12345
    68v78v178v278v1278v378v1378v2378v12378v478v1478v2478v12478v3478v13478v23478v123478v578v1578v25
    78v12578v3578v13578v23578v123578v4578v14578v24578v124578v34578v134578v234578v1234578v678v1678v
    2678v12678v3678v13678v23678v123678v4678v14678v24678v124678v34678v134678v234678v1234678v5678v15
    678v25678v125678v35678v135678v235678v1235678v45678v145678v245678v1245678v345678v1345678v234567
    8v12345678aRIGHTWARDS_TWO-HEADED_ARROW_WITH_VERTICAL_STROKEziDOUBLE_VERTICAL_STROKEaLEFTWARDS_
    DOUBLE_ARROW_WITH_VERTICAL_STROKEaRIGHTWARDS_DOUBLE_ARROW_WITH_VERTICAL_STROKEaLEFT_RIGHT_DOUB
    LE_ARROW_WITH_VERTICAL_STROKEaRIGHTWARDS_TWO-HEADED_ARROW_FROM_BARaLEFTWARDS_DOUBLE_ARROW_FROM
    _BARaRIGHTWARDS_DOUBLE_ARROW_FROM_BARaDOWNWARDS_ARROW_WITH_HORIZONTAL_STROKEaUPWARDS_ARROW_WIT
    H_HORIZONTAL_STROKEiTRIPLE_ARROWaDOWNWARDS_TRIPLE_ARROWaLEFTWARDS_DOUBLE_DASH_ARROWaRIGHTWARDS
    _DOUBLE_DASH_ARROWaLEFTWARDS_TRIPLE_DASH_ARROWaRIGHTWARDS_TRIPLE_DASH_ARROWmWO-HEADED_TRIPLE_D
    ASH_ARROWlARROW_WITH_DOTTED_STEMaUPWARDS_ARROW_TO_BARaDOWNWARDS_ARROW_TO_BARaRIGHTWARDS_ARROW_
    WITH_TAIL_WITH_VERTICAL_STROKEzhDOUBLE_VERTICAL_STROKElTWO-HEADED_ARROW_WITH_TAILzm_WITH_VERTI
    CAL_STROKEzsDOUBLE_VERTICAL_STROKEaLEFTWARDS_ARROW-TAILaRIGHTWARDS_ARROW-TAILaLEFTWARDS_DOUBLE
    _ARROW-TAILaRIGHTWARDS_DOUBLE_ARROW-TAILaLEFTWARDS_ARROW_TO_BLACK_DIAMONDaRIGHTWARDS_ARROW_TO_
    BLACK_DIAMONDaLEFTWARDS_ARROW_FROM_BAR_TO_BLACK_DIAMONDaRIGHTWARDS_ARROW_FROM_BAR_TO_BLACK_DIA
    MONDaNORTH_WEST_AND_SOUTH_EAST_ARROWgEAST_AND_SOUTH_WEST_ARROWgWEST_ARROW_WITH_HOOKgEAST_ARROW
    _WITH_HOOKaSOUTH_EAST_ARROW_WITH_HOOKgWEST_ARROW_WITH_HOOKaNORTH_WEST_ARROW_AND_NORTH_EAST_ARR
    OWgEAST_ARROW_AND_SOUTH_EAST_ARROWaSOUTH_EAST_ARROW_AND_SOUTH_WEST_ARROWgWEST_ARROW_AND_NORTH_
    WEST_ARROWaRISING_DIAGONAL_CROSSING_FALLING_DIAGONALaFALLING_DIAGONAL_CROSSING_RISING_DIAGONAL
    aSOUTH_EAST_ARROW_CROSSING_NORTH_EAST_ARROWaNORTH_EAST_ARROW_CROSSING_SOUTH_EAST_ARROWaFALLING
    _DIAGONAL_CROSSING_NORTH_EAST_ARROWaRISING_DIAGONAL_CROSSING_SOUTH_EAST_ARROWaNORTH_EAST_ARROW
    _CROSSING_NORTH_WEST_ARROWgWEST_ARROW_CROSSING_NORTH_EAST_ARROWaWAVE_ARROW_POINTING_DIRECTLY_R
    IGHTaARROW_POINTING_RIGHTWARDS_THEN_CURVING_UPWARDSzoDOWNWARDSpDOWNWARDS_THEN_CURVING_LEFTWARD
    SznRIGHTWARDSaRIGHT-SIDE_ARC_CLOCKWISE_ARROWaLEFT-SIDE_ARC_ANTICLOCKWISE_ARROWaTOP_ARC_ANTICLO
    CKWISE_ARROWaBOTTOM_ARC_ANTICLOCKWISE_ARROWaTOP_ARC_CLOCKWISE_ARROW_WITH_MINUSiANTICLOCKWISE_A
    RROW_WITH_PLUSaLOWER_RIGHT_SEMICIRCULAR_CLOCKWISE_ARROWgLEFT_SEMICIRCULAR_ANTICLOCKWISE_ARROWa
    ANTICLOCKWISE_CLOSED_CIRCLE_ARROWaCLOCKWISE_CLOSED_CIRCLE_ARROWaRIGHTWARDS_ARROW_ABOVE_SHORT_L
    EFTWARDS_ARROWaLEFTWARDS_ARROW_ABOVE_SHORT_RIGHTWARDS_ARROWaSHORT_RIGHTWARDS_ARROW_ABOVE_LEFTW
    ARDS_ARROWaRIGHTWARDS_ARROW_WITH_PLUS_BELOWaLEFTWARDS_ARROW_WITH_PLUS_BELOWaRIGHTWARDS_ARROW_T
    HROUGH_XaLEFT_RIGHT_ARROW_THROUGH_SMALL_CIRCLEaUPWARDS_TWO-HEADED_ARROW_FROM_SMALL_CIRCLEaLEFT
    _BARB_UP_RIGHT_BARB_DOWN_HARPOONkDOWN_RIGHT_BARB_UP_HARPOONaUP_BARB_RIGHT_DOWN_BARB_LEFT_HARPO
    ONiLEFT_DOWN_BARB_RIGHT_HARPOONaLEFT_BARB_UP_RIGHT_BARB_UP_HARPOONaUP_BARB_RIGHT_DOWN_BARB_RIG
    HT_HARPOONaLEFT_BARB_DOWN_RIGHT_BARB_DOWN_HARPOONaUP_BARB_LEFT_DOWN_BARB_LEFT_HARPOONaLEFTWARD
    S_HARPOON_WITH_BARB_UP_TO_BARaRIGHTWARDS_HARPOON_WITH_BARB_UP_TO_BARaUPWARDS_HARPOON_WITH_BARB
    _RIGHT_TO_BARaDOWNWARDS_HARPOON_WITH_BARB_RIGHT_TO_BARaLEFTWARDS_HARPOON_WITH_BARB_DOWN_TO_BAR
    aRIGHTWARDS_HARPOON_WITH_BARB_DOWN_TO_BARaUPWARDS_HARPOON_WITH_BARB_LEFT_TO_BARaDOWNWARDS_HARP
    OON_WITH_BARB_LEFT_TO_BARaLEFTWARDS_HARPOON_WITH_BARB_UP_FROM_BARaRIGHTWARDS_HARPOON_WITH_BARB
    _UP_FROM_BARaUPWARDS_HARPOON_WITH_BARB_RIGHT_FROM_BARaDOWNWARDS_HARPOON_WITH_BARB_RIGHT_FROM_B
    ARaLEFTWARDS_HARPOON_WITH_BARB_DOWN_FROM_BARaRIGHTWARDS_HARPOON_WITH_BARB_DOWN_FROM_BARaUPWARD
    S_HARPOON_WITH_BARB_LEFT_FROM_BARaDOWNWARDS_HARPOON_WITH_BARB_LEFT_FROM_BARaLEFTWARDS_HARPOON_
    WITH_BARB_UP_ABOVE_LEFTWARDS_HARPOON_WITH_BARB_DOWNaUPWARDS_HARPOON_WITH_BARB_LEFT_BESIDE_UPWA
    RDS_HARPOON_WITH_BARB_RIGHTaRIGHTWARDS_HARPOON_WITH_BARB_UP_ABOVE_RIGHTWARDS_HARPOON_WITH_BARB
    _DOWNaDOWNWARDS_HARPOON_WITH_BARB_LEFT_BESIDE_DOWNWARDS_HARPOON_WITH_BARB_RIGHTaLEFTWARDS_HARP
    OON_WITH_BARB_UP_ABOVE_RIGHTWARDS_HARPOON_WITH_BARB_UPzdDOWN_ABOVE_RIGHTWARDS_HARPOON_WITH_BAR
    B_DOWNaRIGHTWARDS_HARPOON_WITH_BARB_UP_ABOVE_LEFTWARDS_HARPOON_WITH_BARB_UPzeDOWN_ABOVE_LEFTWA
    RDS_HARPOON_WITH_BARB_DOWNaLEFTWARDS_HARPOON_WITH_BARB_UP_ABOVE_LONG_DASHzdDOWN_BELOW_LONG_DAS
    HaRIGHTWARDS_HARPOON_WITH_BARB_UP_ABOVE_LONG_DASHzeDOWN_BELOW_LONG_DASHaUPWARDS_HARPOON_WITH_B
    ARB_LEFT_BESIDE_DOWNWARDS_HARPOON_WITH_BARB_RIGHTaDOWNWARDS_HARPOON_WITH_BARB_LEFT_BESIDE_UPWA
    RDS_HARPOON_WITH_BARB_RIGHTaRIGHT_DOUBLE_ARROW_WITH_ROUNDED_HEADaEQUALS_SIGN_ABOVE_RIGHTWARDS_
    ARROWaTILDE_OPERATOR_ABOVE_RIGHTWARDS_ARROWaLEFTWARDS_ARROW_ABOVE_TILDE_OPERATORaRIGHTWARDS_AR
    ROW_ABOVE_TILDE_OPERATORxALMOST_EQUAL_TOaLESS-THAN_ABOVE_LEFTWARDS_ARROWcFTWARDS_ARROW_THROUGH
    _LESS-THANaGREATER-THAN_ABOVE_RIGHTWARDS_ARROWaSUBSET_ABOVE_RIGHTWARDS_ARROWaLEFTWARDS_ARROW_T
    HROUGH_SUBSETaSUPERSET_ABOVE_LEFTWARDS_ARROWaLEFT_FISH_TAILaRIGHT_FISH_TAILaUP_FISH_TAILaDOWN_
    FISH_TAILaTRIPLE_VERTICAL_BAR_DELIMITERaZ_NOTATION_SPOTlTYPE_COLONaLEFT_WHITE_CURLY_BRACKETaRI
    GHT_WHITE_CURLY_BRACKETaLEFT_WHITE_PARENTHESISaRIGHT_WHITE_PARENTHESISaZ_NOTATION_LEFT_IMAGE_B
    RACKETlRIGHT_IMAGE_BRACKETlLEFT_BINDING_BRACKETlRIGHT_BINDING_BRACKETaLEFT_SQUARE_BRACKET_WITH
    _UNDERBARaRIGHT_SQUARE_BRACKET_WITH_UNDERBARaLEFT_SQUARE_BRACKET_WITH_TICK_IN_TOP_CORNERaRIGHT
    _SQUARE_BRACKET_WITH_TICK_IN_BOTTOM_CORNERaLEFT_SQUARE_BRACKET_WITH_TICK_IN_BOTTOM_CORNERaRIGH
    T_SQUARE_BRACKET_WITH_TICK_IN_TOP_CORNERaLEFT_ANGLE_BRACKET_WITH_DOTaRIGHT_ANGLE_BRACKET_WITH_
    DOTaLEFT_ARC_LESS-THAN_BRACKETaRIGHT_ARC_GREATER-THAN_BRACKETaDOUBLE_LEFT_ARC_GREATER-THAN_BRA
    CKEThRIGHT_ARC_LESS-THAN_BRACKETaLEFT_BLACK_TORTOISE_SHELL_BRACKETaRIGHT_BLACK_TORTOISE_SHELL_
    BRACKETaDOTTED_FENCEaVERTICAL_ZIGZAG_LINEaMEASURED_ANGLE_OPENING_LEFTaRIGHT_ANGLE_VARIANT_WITH
    _SQUAREaMEASURED_RIGHT_ANGLE_WITH_DOTaANGLE_WITH_S_INSIDEbCUTE_ANGLEaSPHERICAL_ANGLE_OPENING_L
    EFTyUPaTURNED_ANGLEaREVERSED_ANGLEaANGLE_WITH_UNDERBARaREVERSED_ANGLE_WITH_UNDERBARaOBLIQUE_AN
    GLE_OPENING_UPwDOWNaMEASURED_ANGLE_WITH_OPEN_ARM_ENDING_IN_ARROW_POINTING_UP_AND_RIGHTzzlLEFTz
    zeDOWN_AND_RIGHTzznLEFTzzeRIGHT_AND_UPzzeLEFT_AND_UPzzeRIGHT_AND_DOWNzzeLEFT_AND_DOWNaREVERSED
    _EMPTY_SETaEMPTY_SET_WITH_OVERBARpSMALL_CIRCLE_ABOVEpRIGHT_ARROW_ABOVEpLEFT_ARROW_ABOVEaCIRCLE
    _WITH_HORIZONTAL_BARgD_VERTICAL_BARiPARALLELiREVERSE_SOLIDUSiPERPENDICULARg_DIVIDED_BY_HORIZON
    TAL_BAR_AND_TOP_HALF_DIVIDED_BY_VERTICAL_BARhWITH_SUPERIMPOSED_XgD_ANTICLOCKWISE-ROTATED_DIVIS
    ION_SIGNaUP_ARROW_THROUGH_CIRCLEaCIRCLED_WHITE_BULLETiBULLETiLESS-THANiGREATER-THANg_WITH_SMAL
    L_CIRCLE_TO_THE_RIGHTmTWO_HORIZONTAL_STROKES_TO_THE_RIGHTaSQUARED_RISING_DIAGONAL_SLASHiFALLIN
    G_DIAGONAL_SLASHiASTERISKiSMALL_CIRCLEjQUAREaTWO_JOINED_SQUARESbRIANGLE_WITH_DOT_ABOVEoUNDERBA
    RaS_IN_TRIANGLEaTRIANGLE_WITH_SERIFS_AT_BOTTOMaRIGHT_TRIANGLE_ABOVE_LEFT_TRIANGLEaLEFT_TRIANGL
    E_BESIDE_VERTICAL_BARaVERTICAL_BAR_BESIDE_RIGHT_TRIANGLEaBOWTIE_WITH_LEFT_HALF_BLACKmRIGHT_HAL
    F_BLACKbLACK_BOWTIEaTIMES_WITH_LEFT_HALF_BLACKlRIGHT_HALF_BLACKaWHITE_HOURGLASSaBLACK_HOURGLAS
    SaLEFT_WIGGLY_FENCEaRIGHT_WIGGLY_FENCEaLEFT_DOUBLE_WIGGLY_FENCEaRIGHT_DOUBLE_WIGGLY_FENCEaINCO
    MPLETE_INFINITYaTIE_OVER_INFINITYaINFINITY_NEGATED_WITH_VERTICAL_BARaDOUBLE-ENDED_MULTIMAPaSQU
    ARE_WITH_CONTOURED_OUTLINEaINCREASES_ASaSHUFFLE_PRODUCTaEQUALS_SIGN_AND_SLANTED_PARALLELzh_WIT
    H_TILDE_ABOVEaIDENTICAL_TO_AND_SLANTED_PARALLELaGLEICH_STARKaTHERMODYNAMICaDOWN-POINTING_TRIAN
    GLE_WITH_LEFT_HALF_BLACKzdRIGHT_HALF_BLACKaBLACK_DIAMOND_WITH_DOWN_ARROWgLOZENGEaWHITE_CIRCLE_
    WITH_DOWN_ARROWaBLACK_CIRCLE_WITH_DOWN_ARROWaERROR-BARRED_WHITE_SQUAREnBLACK_SQUAREnWHITE_DIAM
    ONDnBLACK_DIAMONDnWHITE_CIRCLEnBLACK_CIRCLEaRULE-DELAYEDbEVERSE_SOLIDUS_OPERATORaSOLIDUS_WITH_
    OVERBARaREVERSE_SOLIDUS_WITH_HORIZONTAL_STROKEaBIG_SOLIDUSeREVERSE_SOLIDUSaDOUBLE_PLUSaTRIPLE_
    PLUSaLEFT-POINTING_CURVED_ANGLE_BRACKETaRIGHT-POINTING_CURVED_ANGLE_BRACKETaTINYaMINYaN-ARY_CI
    RCLED_DOT_OPERATORoPLUS_OPERATORoTIMES_OPERATORgUNION_OPERATOR_WITH_DOTzbPLUSgSQUARE_INTERSECT
    ION_OPERATORnUNION_OPERATORaTWO_LOGICAL_AND_OPERATORmOR_OPERATORaN-ARY_TIMES_OPERATORaMODULO_T
    WO_SUMaSUMMATION_WITH_INTEGRALaQUADRUPLE_INTEGRAL_OPERATORaFINITE_PART_INTEGRALaINTEGRAL_WITH_
    DOUBLE_STROKEjAVERAGE_WITH_SLASHaCIRCULATION_FUNCTIONaANTICLOCKWISE_INTEGRATIONaLINE_INTEGRATI
    ON_WITH_RECTANGULAR_PATH_AROUND_POLEwSEMICIRCULAR_PATH_AROUND_POLErNOT_INCLUDING_THE_POLEaINTE
    GRAL_AROUND_A_POINT_OPERATORaQUATERNION_INTEGRAL_OPERATORaINTEGRAL_WITH_LEFTWARDS_ARROW_WITH_H
    OOKoTIMES_SIGNoINTERSECTIONoUNIONoOVERBARoUNDERBARaJOINaLARGE_LEFT_TRIANGLE_OPERATORaZ_NOTATIO
    N_SCHEMA_COMPOSITIONsPIPINGtROJECTIONaPLUS_SIGN_WITH_SMALL_CIRCLE_ABOVEpCIRCUMFLEX_ACCENT_ABOV
    EpTILDE_ABOVEpDOT_BELOWpTILDE_BELOWpSUBSCRIPT_TWOpBLACK_TRIANGLEaMINUS_SIGN_WITH_COMMA_ABOVEqD
    OT_BELOWqFALLING_DOTSqRISING_DOTSaPLUS_SIGN_IN_LEFT_HALF_CIRCLEnRIGHT_HALF_CIRCLEaVECTOR_OR_CR
    OSS_PRODUCTaMULTIPLICATION_SIGN_WITH_DOT_ABOVEzUNDERBARaSEMIDIRECT_PRODUCT_WITH_BOTTOM_CLOSEDb
    MASH_PRODUCTaMULTIPLICATION_SIGN_IN_LEFT_HALF_CIRCLExRIGHT_HALF_CIRCLEaCIRCLED_MULTIPLICATION_
    SIGN_WITH_CIRCUMFLEX_ACCENTaMULTIPLICATION_SIGN_IN_DOUBLE_CIRCLEaCIRCLED_DIVISION_SIGNaPLUS_SI
    GN_IN_TRIANGLEaMINUS_SIGN_IN_TRIANGLEbULTIPLICATION_SIGN_IN_TRIANGLEaINTERIOR_PRODUCTaRIGHTHAN
    D_INTERIOR_PRODUCTaZ_NOTATION_RELATIONAL_COMPOSITIONaAMALGAMATION_OR_COPRODUCTaINTERSECTION_WI
    TH_DOTaUNION_WITH_MINUS_SIGNlOVERBARaINTERSECTION_WITH_OVERBARsLOGICAL_ANDaUNION_WITH_LOGICAL_
    ORgABOVE_INTERSECTIONaINTERSECTION_ABOVE_UNIONaUNION_ABOVE_BAR_ABOVE_INTERSECTIONaINTERSECTION
    _ABOVE_BAR_ABOVE_UNIONaUNION_BESIDE_AND_JOINED_WITH_UNIONaINTERSECTION_BESIDE_AND_JOINED_WITH_
    INTERSECTIONaCLOSED_UNION_WITH_SERIFShINTERSECTION_WITH_SERIFSaDOUBLE_SQUARE_INTERSECTIONoUNIO
    NaCLOSED_UNION_WITH_SERIFS_AND_SMASH_PRODUCTaLOGICAL_AND_WITH_DOT_ABOVEiOR_WITH_DOT_ABOVEaDOUB
    LE_LOGICAL_ANDpORaTWO_INTERSECTING_LOGICAL_ANDzORaSLOPING_LARGE_ORoANDaLOGICAL_OR_OVERLAPPING_
    LOGICAL_ANDiAND_WITH_MIDDLE_STEMiOR_WITH_MIDDLE_STEMiAND_WITH_HORIZONTAL_DASHiOR_WITH_HORIZONT
    AL_DASHiAND_WITH_DOUBLE_OVERBARrUNDERBARrDOUBLE_UNDERBARaSMALL_VEE_WITH_UNDERBARaLOGICAL_OR_WI
    TH_DOUBLE_OVERBARxUNDERBARaZ_NOTATION_DOMAIN_ANTIRESTRICTIONlRANGE_ANTIRESTRICTIONaEQUALS_SIGN
    _WITH_DOT_BELOWaIDENTICAL_WITH_DOT_ABOVEaTRIPLE_HORIZONTAL_BAR_WITH_DOUBLE_VERTICAL_STROKEzcTR
    IPLE_VERTICAL_STROKEbILDE_OPERATOR_WITH_DOT_ABOVEuRISING_DOTSaSIMILAR_MINUS_SIMILARaCONGRUENT_
    WITH_DOT_ABOVEaEQUALS_WITH_ASTERISKaALMOST_EQUAL_TO_WITH_CIRCUMFLEX_ACCENTbPPROXIMATELY_EQUAL_
    OR_EQUAL_TOaEQUALS_SIGN_ABOVE_PLUS_SIGNaPLUS_SIGN_ABOVE_EQUALS_SIGNaEQUALS_SIGN_ABOVE_TILDE_OP
    ERATORaDOUBLE_COLON_EQUALaTWO_CONSECUTIVE_EQUALS_SIGNSbHREE_CONSECUTIVE_EQUALS_SIGNSaEQUALS_SI
    GN_WITH_TWO_DOTS_ABOVE_AND_TWO_DOTS_BELOWdIVALENT_WITH_FOUR_DOTS_ABOVEaLESS-THAN_WITH_CIRCLE_I
    NSIDEaGREATER-THAN_WITH_CIRCLE_INSIDEaLESS-THAN_WITH_QUESTION_MARK_ABOVEaGREATER-THAN_WITH_QUE
    STION_MARK_ABOVEaLESS-THAN_OR_SLANTED_EQUAL_TOaGREATER-THAN_OR_SLANTED_EQUAL_TOaLESS-THAN_OR_S
    LANTED_EQUAL_TO_WITH_DOT_INSIDEaGREATER-THAN_OR_SLANTED_EQUAL_TO_WITH_DOT_INSIDEaLESS-THAN_OR_
    SLANTED_EQUAL_TO_WITH_DOT_ABOVEaGREATER-THAN_OR_SLANTED_EQUAL_TO_WITH_DOT_ABOVEaLESS-THAN_OR_S
    LANTED_EQUAL_TO_WITH_DOT_ABOVE_RIGHTaGREATER-THAN_OR_SLANTED_EQUAL_TO_WITH_DOT_ABOVE_LEFTaLESS
    -THAN_OR_APPROXIMATEaGREATER-THAN_OR_APPROXIMATEaLESS-THAN_AND_SINGLE-LINE_NOT_EQUAL_TOaGREATE
    R-THAN_AND_SINGLE-LINE_NOT_EQUAL_TOaLESS-THAN_AND_NOT_APPROXIMATEaGREATER-THAN_AND_NOT_APPROXI
    MATEaLESS-THAN_ABOVE_DOUBLE-LINE_EQUAL_ABOVE_GREATER-THANaGREATER-THAN_ABOVE_DOUBLE-LINE_EQUAL
    _ABOVE_LESS-THANaLESS-THAN_ABOVE_SIMILAR_OR_EQUALaGREATER-THAN_ABOVE_SIMILAR_OR_EQUALaLESS-THA
    N_ABOVE_SIMILAR_ABOVE_GREATER-THANaGREATER-THAN_ABOVE_SIMILAR_ABOVE_LESS-THANaLESS-THAN_ABOVE_
    GREATER-THAN_ABOVE_DOUBLE-LINE_EQUALaGREATER-THAN_ABOVE_LESS-THAN_ABOVE_DOUBLE-LINE_EQUALaLESS
    -THAN_ABOVE_SLANTED_EQUAL_ABOVE_GREATER-THAN_ABOVE_SLANTED_EQUALaGREATER-THAN_ABOVE_SLANTED_EQ
    UAL_ABOVE_LESS-THAN_ABOVE_SLANTED_EQUALaSLANTED_EQUAL_TO_OR_LESS-THANuGREATER-THANuLESS-THAN_W
    ITH_DOT_INSIDEuGREATER-THAN_WITH_DOT_INSIDEaDOUBLE-LINE_EQUAL_TO_OR_LESS-THANyGREATER-THANmSLA
    NTED_EQUAL_TO_OR_LESS-THANzhGREATER-THANaSIMILAR_OR_LESS-THANlGREATER-THANiABOVE_LESS-THAN_ABO
    VE_EQUALS_SIGNoGREATER-THAN_ABOVE_EQUALS_SIGNaDOUBLE_NESTED_LESS-THANoGREATER-THANoLESS-THAN_W
    ITH_UNDERBARaGREATER-THAN_OVERLAPPING_LESS-THANnBESIDE_LESS-THANaLESS-THAN_CLOSED_BY_CURVEaGRE
    ATER-THAN_CLOSED_BY_CURVEaLESS-THAN_CLOSED_BY_CURVE_ABOVE_SLANTED_EQUALaGREATER-THAN_CLOSED_BY
    _CURVE_ABOVE_SLANTED_EQUALaSMALLER_THANaLARGER_THANaSMALLER_THAN_OR_EQUAL_TOaLARGER_THAN_OR_EQ
    UAL_TOaEQUALS_SIGN_WITH_BUMPY_ABOVEaPRECEDES_ABOVE_SINGLE-LINE_EQUALS_SIGNaSUCCEEDS_ABOVE_SING
    LE-LINE_EQUALS_SIGNaPRECEDES_ABOVE_SINGLE-LINE_NOT_EQUAL_TOaSUCCEEDS_ABOVE_SINGLE-LINE_NOT_EQU
    AL_TOaPRECEDES_ABOVE_EQUALS_SIGNaSUCCEEDS_ABOVE_EQUALS_SIGNaPRECEDES_ABOVE_NOT_EQUAL_TOaSUCCEE
    DS_ABOVE_NOT_EQUAL_TOaPRECEDES_ABOVE_ALMOST_EQUAL_TOaSUCCEEDS_ABOVE_ALMOST_EQUAL_TOaPRECEDES_A
    BOVE_NOT_ALMOST_EQUAL_TOaSUCCEEDS_ABOVE_NOT_ALMOST_EQUAL_TOaDOUBLE_PRECEDEShSUCCEEDSaSUBSET_WI
    TH_DOTcPERSET_WITH_DOTcBSET_WITH_PLUS_SIGN_BELOWcPERSET_WITH_PLUS_SIGN_BELOWcBSET_WITH_MULTIPL
    ICATION_SIGN_BELOWcPERSET_WITH_MULTIPLICATION_SIGN_BELOWcBSET_OF_OR_EQUAL_TO_WITH_DOT_ABOVEcPE
    RSET_OF_OR_EQUAL_TO_WITH_DOT_ABOVEcBSET_OF_ABOVE_EQUALS_SIGNcPERSET_OF_ABOVE_EQUALS_SIGNcBSET_
    OF_ABOVE_TILDE_OPERATORcPERSET_OF_ABOVE_TILDE_OPERATORcBSET_OF_ABOVE_ALMOST_EQUAL_TOcPERSET_OF
    _ABOVE_ALMOST_EQUAL_TOcBSET_OF_ABOVE_NOT_EQUAL_TOcPERSET_OF_ABOVE_NOT_EQUAL_TObQUARE_LEFT_OPEN
    _BOX_OPERATORhRIGHT_OPEN_BOX_OPERATORaCLOSED_SUBSETjPERSETjBSET_OR_EQUAL_TOjPERSET_OR_EQUAL_TO
    aSUBSET_ABOVE_SUPERSETcPERSET_ABOVE_SUBSETcBSET_ABOVE_SUBSETcPERSET_ABOVE_SUPERSETjBESIDE_SUBS
    ETqAND_JOINED_BY_DASH_WITH_SUBSETaELEMENT_OF_OPENING_DOWNWARDSaPITCHFORK_WITH_TEE_TOPaTRANSVER
    SAL_INTERSECTIONaFORKINGaNONFORKINGaSHORT_LEFT_TACKgDOWN_TACKgUP_TACKaPERPENDICULAR_WITH_SaVER
    TICAL_BAR_TRIPLE_RIGHT_TURNSTILEaDOUBLE_VERTICAL_BAR_LEFT_TURNSTILEaVERTICAL_BAR_DOUBLE_LEFT_T
    URNSTILEaDOUBLE_VERTICAL_BAR_DOUBLE_LEFT_TURNSTILEaLONG_DASH_FROM_LEFT_MEMBER_OF_DOUBLE_VERTIC
    ALaSHORT_DOWN_TACK_WITH_OVERBARgUP_TACK_WITH_UNDERBARoABOVE_SHORT_DOWN_TACKaDOUBLE_DOWN_TACKhU
    P_TACKhSTROKE_NOT_SIGNaREVERSED_DOUBLE_STROKE_NOT_SIGNaDOES_NOT_DIVIDE_WITH_REVERSED_NEGATION_
    SLASHaVERTICAL_LINE_WITH_CIRCLE_ABOVEzbBELOWaDOWN_TACK_WITH_CIRCLE_BELOWaPARALLEL_WITH_HORIZON
    TAL_STROKEoTILDE_OPERATORaTRIPLE_VERTICAL_BAR_BINARY_RELATIONuWITH_HORIZONTAL_STROKEhCOLON_OPE
    RATORhNESTED_LESS-THANoGREATER-THANaDOUBLE-LINE_SLANTED_LESS-THAN_OR_EQUAL_TOuGREATER-THAN_OR_
    EQUAL_TOaTRIPLE_SOLIDUS_BINARY_RELATIONaLARGE_TRIPLE_VERTICAL_BAR_OPERATORaDOUBLE_SOLIDUS_OPER
    ATORaWHITE_VERTICAL_BARaN-ARY_WHITE_VERTICAL_BARbORTH_EAST_WHITE_ARROWgWEST_WHITE_ARROWaSOUTH_
    EAST_WHITE_ARROWgWEST_WHITE_ARROWaLEFT_RIGHT_WHITE_ARROWeWARDS_BLACK_ARROWaUPWARDS_BLACK_ARROW
    aDOWNWARDS_BLACK_ARROWaNORTH_EAST_BLACK_ARROWgWEST_BLACK_ARROWaSOUTH_EAST_BLACK_ARROWgWEST_BLA
    CK_ARROWaLEFT_RIGHT_BLACK_ARROWaUP_DOWN_BLACK_ARROWaRIGHTWARDS_ARROW_WITH_TIP_DOWNWARDSzbUPWAR
    DSaLEFTWARDS_ARROW_WITH_TIP_DOWNWARDSzUPWARDSaSQUARE_WITH_TOP_HALF_BLACKmBOTTOM_HALF_BLACKmUPP
    ER_RIGHT_DIAGONAL_HALF_BLACKmLOWER_LEFT_DIAGONAL_HALF_BLACKaDIAMOND_WITH_LEFT_HALF_BLACKnRIGHT
    _HALF_BLACKnTOP_HALF_BLACKnBOTTOM_HALF_BLACKbOTTED_SQUAREaBLACK_LARGE_SQUAREaWHITE_LARGE_SQUAR
    EaBLACK_VERY_SMALL_SQUAREaWHITE_VERY_SMALL_SQUAREaBLACK_PENTAGONaWHITE_PENTAGONgHEXAGONaBLACK_
    HEXAGONaHORIZONTAL_BLACK_HEXAGONaBLACK_LARGE_CIRCLEgMEDIUM_DIAMONDaWHITE_MEDIUM_DIAMONDaBLACK_
    MEDIUM_LOZENGEaWHITE_MEDIUM_LOZENGEaBLACK_SMALL_DIAMONDmLOZENGEaWHITE_SMALL_LOZENGEaBLACK_HORI
    ZONTAL_ELLIPSEaWHITE_HORIZONTAL_ELLIPSEaBLACK_VERTICAL_ELLIPSEaWHITE_VERTICAL_ELLIPSEaLEFT_ARR
    OW_WITH_SMALL_CIRCLEaTHREE_LEFTWARDS_ARROWSaLEFT_ARROW_WITH_CIRCLED_PLUSbONG_LEFTWARDS_SQUIGGL
    E_ARROWbEFTWARDS_TWO-HEADED_ARROW_WITH_VERTICAL_STROKEzhDOUBLE_VERTICAL_STROKEzcFROM_BARvTRIPL
    E_DASH_ARROWkARROW_WITH_DOTTED_STEMvTAIL_WITH_VERTICAL_STROKEzgDOUBLE_VERTICAL_STROKEkTWO-HEAD
    ED_ARROW_WITH_TAILzl_WITH_VERTICAL_STROKEzrDOUBLE_VERTICAL_STROKEkARROW_THROUGH_XaWAVE_ARROW_P
    OINTING_DIRECTLY_LEFTaEQUALS_SIGN_ABOVE_LEFTWARDS_ARROWaREVERSE_TILDE_OPERATOR_ABOVE_LEFTWARDS
    _ARROWaLEFTWARDS_ARROW_ABOVE_REVERSE_ALMOST_EQUAL_TOaRIGHTWARDS_ARROW_THROUGH_GREATER-THANzSUP
    ERSETaLEFTWARDS_QUADRUPLE_ARROWaRIGHTWARDS_QUADRUPLE_ARROWbEVERSE_TILDE_OPERATOR_ABOVE_RIGHTWA
    RDS_ARROWbIGHTWARDS_ARROW_ABOVE_REVERSE_ALMOST_EQUAL_TOaTILDE_OPERATOR_ABOVE_LEFTWARDS_ARROWaL
    EFTWARDS_ARROW_ABOVE_ALMOST_EQUAL_TOwREVERSE_TILDE_OPERATORaRIGHTWARDS_ARROW_ABOVE_REVERSE_TIL
    DE_OPERATORaDOWNWARDS_TRIANGLE-HEADED_ZIGZAG_ARROWaSHORT_SLANTED_NORTH_ARROWgBACKSLANTED_SOUTH
    _ARROWaWHITE_MEDIUM_STARaBLACK_SMALL_STARaWHITE_SMALL_STARaBLACK_RIGHT-POINTING_PENTAGONaWHITE
    _RIGHT-POINTING_PENTAGONaHEAVY_LARGE_CIRCLEgOVAL_WITH_OVAL_INSIDEgCIRCLE_WITH_CIRCLE_INSIDElEm
    D_SALTIREaSLANTED_NORTH_ARROW_WITH_HOOKED_HEADaBACKSLANTED_SOUTH_ARROW_WITH_HOOKED_TAILaSLANTE
    D_NORTH_ARROW_WITH_HORIZONTAL_TAILaBACKSLANTED_SOUTH_ARROW_WITH_HORIZONTAL_TAILbENT_ARROW_POIN
    TING_DOWNWARDS_THEN_NORTH_EASTaSHORT_BENT_ARROW_POINTING_DOWNWARDS_THEN_NORTH_EASTaLEFTWARDS_T
    RIANGLE-HEADED_ARROWaUPWARDS_TRIANGLE-HEADED_ARROWaRIGHTWARDS_TRIANGLE-HEADED_ARROWaDOWNWARDS_
    TRIANGLE-HEADED_ARROWaLEFT_RIGHT_TRIANGLE-HEADED_ARROWaUP_DOWN_TRIANGLE-HEADED_ARROWaNORTH_WES
    T_TRIANGLE-HEADED_ARROWgEAST_TRIANGLE-HEADED_ARROWaSOUTH_EAST_TRIANGLE-HEADED_ARROWgWEST_TRIAN
    GLE-HEADED_ARROWaLEFTWARDS_TRIANGLE-HEADED_DASHED_ARROWaUPWARDS_TRIANGLE-HEADED_DASHED_ARROWaR
    IGHTWARDS_TRIANGLE-HEADED_DASHED_ARROWaDOWNWARDS_TRIANGLE-HEADED_DASHED_ARROWaCLOCKWISE_TRIANG
    LE-HEADED_OPEN_CIRCLE_ARROWaANTICLOCKWISE_TRIANGLE-HEADED_OPEN_CIRCLE_ARROWaLEFTWARDS_TRIANGLE
    -HEADED_ARROW_TO_BARaUPWARDS_TRIANGLE-HEADED_ARROW_TO_BARaRIGHTWARDS_TRIANGLE-HEADED_ARROW_TO_
    BARaDOWNWARDS_TRIANGLE-HEADED_ARROW_TO_BAR=2B76aNORTH_WEST_TRIANGLE-HEADED_ARROW_TO_BARgEAST_T
    RIANGLE-HEADED_ARROW_TO_BARaSOUTH_EAST_TRIANGLE-HEADED_ARROW_TO_BARgWEST_TRIANGLE-HEADED_ARROW
    _TO_BARaLEFTWARDS_TRIANGLE-HEADED_ARROW_WITH_DOUBLE_HORIZONTAL_STROKEaUPWARDS_TRIANGLE-HEADED_
    ARROW_WITH_DOUBLE_HORIZONTAL_STROKEaRIGHTWARDS_TRIANGLE-HEADED_ARROW_WITH_DOUBLE_HORIZONTAL_ST
    ROKEaDOWNWARDS_TRIANGLE-HEADED_ARROW_WITH_DOUBLE_HORIZONTAL_STROKEaHORIZONTAL_TAB_KEYaVERTICAL
    _TAB_KEYaLEFTWARDS_TRIANGLE-HEADED_ARROW_OVER_RIGHTWARDS_TRIANGLE-HEADED_ARROWaUPWARDS_TRIANGL
    E-HEADED_ARROW_LEFTWARDS_OF_DOWNWARDS_TRIANGLE-HEADED_ARROWaRIGHTWARDS_TRIANGLE-HEADED_ARROW_O
    VER_LEFTWARDS_TRIANGLE-HEADED_ARROWaDOWNWARDS_TRIANGLE-HEADED_ARROW_LEFTWARDS_OF_UPWARDS_TRIAN
    GLE-HEADED_ARROWaLEFTWARDS_TRIANGLE-HEADED_PAIRED_ARROWSaUPWARDS_TRIANGLE-HEADED_PAIRED_ARROWS
    aRIGHTWARDS_TRIANGLE-HEADED_PAIRED_ARROWSaDOWNWARDS_TRIANGLE-HEADED_PAIRED_ARROWSaLEFTWARDS_BL
    ACK_CIRCLED_WHITE_ARROWaUPWARDS_BLACK_CIRCLED_WHITE_ARROWaRIGHTWARDS_BLACK_CIRCLED_WHITE_ARROW
    aDOWNWARDS_BLACK_CIRCLED_WHITE_ARROWaANTICLOCKWISE_TRIANGLE-HEADED_RIGHT_U-SHAPED_ARROWzfBOTTO
    M_U-SHAPED_ARROWzfLEFT_U-SHAPED_ARROWzfTOP_U-SHAPED_ARROWaRETURN_LEFThRIGHTaNEWLINE_LEFTiRIGHT
    aFOUR_CORNER_ARROWS_CIRCLING_ANTICLOCKWISEaRIGHTWARDS_BLACK_ARROW=2B97aSYMBOL_FOR_TYPE_A_ELECT
    RONICSaTHREE-D_TOP-LIGHTED_LEFTWARDS_EQUILATERAL_ARROWHEADiRIGHT-LIGHTED_UPWARDS_EQUILATERAL_A
    RROWHEADiTOP-LIGHTED_RIGHTWARDS_EQUILATERAL_ARROWHEADiLEFT-LIGHTED_DOWNWARDS_EQUILATERAL_ARROW
    HEADaBLACK_LEFTWARDS_EQUILATERAL_ARROWHEADgUPWARDS_EQUILATERAL_ARROWHEADgRIGHTWARDS_EQUILATERA
    L_ARROWHEADgDOWNWARDS_EQUILATERAL_ARROWHEADaDOWNWARDS_TRIANGLE-HEADED_ARROW_WITH_LONG_TIP_LEFT
    WARDSzvRIGHTWARDSaUPWARDS_TRIANGLE-HEADED_ARROW_WITH_LONG_TIP_LEFTWARDSztRIGHTWARDSaLEFTWARDS_
    TRIANGLE-HEADED_ARROW_WITH_LONG_TIP_UPWARDSaRIGHTWARDS_TRIANGLE-HEADED_ARROW_WITH_LONG_TIP_UPW
    ARDSaLEFTWARDS_TRIANGLE-HEADED_ARROW_WITH_LONG_TIP_DOWNWARDSaRIGHTWARDS_TRIANGLE-HEADED_ARROW_
    WITH_LONG_TIP_DOWNWARDSaBLACK_CURVED_DOWNWARDS_AND_LEFTWARDS_ARROWzcRIGHTWARDS_ARROWnUPWARDS_A
    ND_LEFTWARDS_ARROWzRIGHTWARDS_ARROWnLEFTWARDS_AND_UPWARDS_ARROWnRIGHTWARDS_AND_UPWARDS_ARROWnL
    EFTWARDS_AND_DOWNWARDS_ARROWnRIGHTWARDS_AND_DOWNWARDS_ARROWaRIBBON_ARROW_DOWN_LEFTsRIGHTnUP_LE
    FTqRIGHTnLEFT_UPnRIGHT_UPnLEFT_DOWNnRIGHT_DOWNaUPWARDS_WHITE_ARROW_FROM_BAR_WITH_HORIZONTAL_BA
    Rc_ARROWHEAD_IN_A_RECTANGLE_BOXaOVERLAPPING_WHITE_SQUARESsAND_BLACK_SQUARESmBLACK_SQUARESaBALL
    OT_BOX_WITH_LIGHT_XaCIRCLED_XiBOLD_XaBLACK_SQUARE_CENTREDgDIAMOND_CENTREDaTURNED_BLACK_PENTAGO
    NaHORIZONTAL_BLACK_OCTAGONaBLACK_OCTAGONgMEDIUM_UP-POINTING_TRIANGLE_CENTREDnDOWN-POINTING_TRI
    ANGLE_CENTREDnLEFT-POINTING_TRIANGLE_CENTREDnRIGHT-POINTING_TRIANGLE_CENTREDaNEPTUNE_FORM_TWOa
    TOP_HALF_BLACK_CIRCLEaBOTTOM_HALF_BLACK_CIRCLEaLIGHT_FOUR_POINTED_BLACK_CUSPaROTATED_LIGHT_FOU
    R_POINTED_BLACK_CUSPaWHITE_FOUR_POINTED_CUSPaROTATED_WHITE_FOUR_POINTED_CUSPaSQUARE_POSITION_I
    NDICATORaUNCERTAINTY_SIGNaGROUP_MARKaPLUTO_FORM_TWOmHREElFOURmIVEaTRANSPLUTOaPROSERPINAaASTRAE
    AaHYGIEAaPHOLUSaNESSUSaWHITE_MOON_SELENAaBLACK_DIAMOND_ON_CROSSaTRUE_LIGHT_MOON_ARTAaCUPIDOaHA
    DESaZEUSaKRONOSaAPOLLONbDMETOSaVULCANUSaPOSEIDONaLEFT_HALF_BLACK_STARaRIGHT_HALF_BLACK_STARaST
    AR_WITH_LEFT_HALF_BLACKkRIGHT_HALF_BLACKaLEFTWARDS_TWO-HEADED_ARROW_WITH_TRIANGLE_ARROWHEADSaU
    PWARDS_TWO-HEADED_ARROW_WITH_TRIANGLE_ARROWHEADSaRIGHTWARDS_TWO-HEADED_ARROW_WITH_TRIANGLE_ARR
    OWHEADSaDOWNWARDS_TWO-HEADED_ARROW_WITH_TRIANGLE_ARROWHEADSaERIS_FORM_ONEkTWOaSEDNAaRUSSIAN_AS
    TROLOGICAL_SYMBOL_VIGINTILEzdNOVILEzdQUINTILEzdBINOVILEzdSENTAGONzdTREDECILEaEQUALS_SIGN_WITH_
    INFINITY_BELOWaUNITED_SYMBOLaSEPARATED_SYMBOLaDOUBLED_SYMBOLaPASSED_SYMBOLaREVERSED_RIGHT_ANGL
    EaHELLSCHREIBER_PAUSE_SYMBOLaGLAGOLITIC_CAPITAL_LETTER_AZUzbBUKYzbVEDEzbGLAGOLIzbDOBROzbYESTUz
    bZHIVETEzbDZELOzbZEMLJAzbIZHEzcNITIAL_IZHEzbIzbDJERVIzbKAKOzbLJUDIJEzbMYSLITEzbNASHIzbONUzbPOK
    OJIzbRITSIzbSLOVOzbTVRIDOzbUKUzbFRITUzbHERUzbOTUzbPEzbSHTAzbTSIzbCHRIVIzbSHAzbYERUzeIzcATIzbSP
    IDERY_HAzbYUzbSMALL_YUSzk_WITH_TAILzbYOzbIOTATED_SMALL_YUSzbBIG_YUSzbIOTATED_BIG_YUSzbFITAzbIZ
    HITSAzbSHTAPICzbTROKUTASTI_AzbLATINATE_MYSLITEzbCAUDATE_CHRIVIlSMALL_LETTER_AZUyBUKYyVEDEyGLAG
    OLIyDOBROyYESTUyZHIVETEyDZELOyZEMLJAyIZHEzNITIAL_IZHEyIyDJERVIyKAKOyLJUDIJEyMYSLITEyNASHIyONUy
    POKOJIyRITSIySLOVOyTVRIDOyUKUyFRITUyHERUyOTUyPEySHTAyTSIyCHRIVIySHAyYERUzcIzATIySPIDERY_HAyYUy
    SMALL_YUSzi_WITH_TAILyYOyIOTATED_SMALL_YUSyBIG_YUSyIOTATED_BIG_YUSyFITAyIZHITSAySHTAPICyTROKUT
    ASTI_AyLATINATE_MYSLITEyCAUDATE_CHRIVIaLATIN_CAPITAL_LETTER_L_WITH_DOUBLE_BARgSMALL_LETTER_L_W
    ITH_DOUBLE_BARgCAPITAL_LETTER_L_WITH_MIDDLE_TILDEvP_WITH_STROKEvR_WITH_TAILgSMALL_LETTER_A_WIT
    H_STROKEtT_WITH_DIAGONAL_STROKEgCAPITAL_LETTER_H_WITH_DESCENDERgSMALL_LETTER_H_WITH_DESCENDERg
    CAPITAL_LETTER_K_WITH_DESCENDERgSMALL_LETTER_K_WITH_DESCENDERgCAPITAL_LETTER_Z_WITH_DESCENDERg
    SMALL_LETTER_Z_WITH_DESCENDERgCAPITAL_LETTER_ALPHAvM_WITH_HOOKvTURNED_AzeLPHAgSMALL_LETTER_V_W
    ITH_RIGHT_HOOKgCAPITAL_LETTER_W_WITH_HOOKgSMALL_LETTER_W_WITH_HOOKtV_WITH_CURLgCAPITAL_LETTER_
    HALF_HgSMALL_LETTER_HALF_HtTAILLESS_PHItE_WITH_NOTCHtTURNED_R_WITH_TAILtO_WITH_LOW_RING_INSIDE
    gLETTER_SMALL_CAPITAL_TURNED_EgSUBSCRIPT_SMALL_LETTER_JaMODIFIER_LETTER_CAPITAL_VaLATIN_CAPITA
    L_LETTER_S_WITH_SWASH_TAILvZ_WITH_SWASH_TAILaCOPTIC_CAPITAL_LETTER_ALFAhSMALL_LETTER_ALFAhCAPI
    TAL_LETTER_VIDAhSMALL_LETTER_VIDAhCAPITAL_LETTER_GAMMAhSMALL_LETTER_GAMMAhCAPITAL_LETTER_DALDA
    hSMALL_LETTER_DALDAhCAPITAL_LETTER_EIEhSMALL_LETTER_EIEhCAPITAL_LETTER_SOUhSMALL_LETTER_SOUhCA
    PITAL_LETTER_ZATAhSMALL_LETTER_ZATAhCAPITAL_LETTER_HATEhSMALL_LETTER_HATEhCAPITAL_LETTER_THETH
    EhSMALL_LETTER_THETHEhCAPITAL_LETTER_IAUDAhSMALL_LETTER_IAUDAhCAPITAL_LETTER_KAPAhSMALL_LETTER
    _KAPAhCAPITAL_LETTER_LAULAhSMALL_LETTER_LAULAhCAPITAL_LETTER_MIhSMALL_LETTER_MIhCAPITAL_LETTER
    _NIhSMALL_LETTER_NIhCAPITAL_LETTER_KSIhSMALL_LETTER_KSIhCAPITAL_LETTER_OhSMALL_LETTER_OhCAPITA
    L_LETTER_PIhSMALL_LETTER_PIhCAPITAL_LETTER_ROhSMALL_LETTER_ROhCAPITAL_LETTER_SIMAhSMALL_LETTER
    _SIMAhCAPITAL_LETTER_TAUhSMALL_LETTER_TAUhCAPITAL_LETTER_UAhSMALL_LETTER_UAhCAPITAL_LETTER_FIh
    SMALL_LETTER_FIhCAPITAL_LETTER_KHIhSMALL_LETTER_KHIhCAPITAL_LETTER_PSIhSMALL_LETTER_PSIhCAPITA
    L_LETTER_OOUhSMALL_LETTER_OOUhCAPITAL_LETTER_DIALECT-P_ALEFhSMALL_LETTER_DIALECT-P_ALEFhCAPITA
    L_LETTER_OLD_COPTIC_AINhSMALL_LETTER_OLD_COPTIC_AINhCAPITAL_LETTER_CRYPTOGRAMMIC_EIEhSMALL_LET
    TER_CRYPTOGRAMMIC_EIEhCAPITAL_LETTER_DIALECT-P_KAPAhSMALL_LETTER_DIALECT-P_KAPAhCAPITAL_LETTER
    _DIALECT-P_NIhSMALL_LETTER_DIALECT-P_NIhCAPITAL_LETTER_CRYPTOGRAMMIC_NIhSMALL_LETTER_CRYPTOGRA
    MMIC_NIhCAPITAL_LETTER_OLD_COPTIC_OOUhSMALL_LETTER_OLD_COPTIC_OOUhCAPITAL_LETTER_SAMPIhSMALL_L
    ETTER_SAMPIhCAPITAL_LETTER_CROSSED_SHEIhSMALL_LETTER_CROSSED_SHEIhCAPITAL_LETTER_OLD_COPTIC_SH
    EIhSMALL_LETTER_OLD_COPTIC_SHEIhCAPITAL_LETTER_OLD_COPTIC_ESHhSMALL_LETTER_OLD_COPTIC_ESHhCAPI
    TAL_LETTER_AKHMIMIC_KHEIhSMALL_LETTER_AKHMIMIC_KHEIhCAPITAL_LETTER_DIALECT-P_HORIhSMALL_LETTER
    _DIALECT-P_HORIhCAPITAL_LETTER_OLD_COPTIC_HORIhSMALL_LETTER_OLD_COPTIC_HORIhCAPITAL_LETTER_OLD
    _COPTIC_HAhSMALL_LETTER_OLD_COPTIC_HAhCAPITAL_LETTER_L-SHAPED_HAhSMALL_LETTER_L-SHAPED_HAhCAPI
    TAL_LETTER_OLD_COPTIC_HEIhSMALL_LETTER_OLD_COPTIC_HEIhCAPITAL_LETTER_OLD_COPTIC_HAThSMALL_LETT
    ER_OLD_COPTIC_HAThCAPITAL_LETTER_OLD_COPTIC_GANGIAhSMALL_LETTER_OLD_COPTIC_GANGIAhCAPITAL_LETT
    ER_OLD_COPTIC_DJAhSMALL_LETTER_OLD_COPTIC_DJAhCAPITAL_LETTER_OLD_COPTIC_SHIMAhSMALL_LETTER_OLD
    _COPTIC_SHIMAhCAPITAL_LETTER_OLD_NUBIAN_SHIMAhSMALL_LETTER_OLD_NUBIAN_SHIMAhCAPITAL_LETTER_OLD
    _NUBIAN_NGIhSMALL_LETTER_OLD_NUBIAN_NGIhCAPITAL_LETTER_OLD_NUBIAN_NYIhSMALL_LETTER_OLD_NUBIAN_
    NYIhCAPITAL_LETTER_OLD_NUBIAN_WAUhSMALL_LETTER_OLD_NUBIAN_WAUiYMBOL_KAIoMI_ROoPI_ROoSTAUROSoTA
    U_ROoKHI_ROoSHIMA_SIMAhCAPITAL_LETTER_CRYPTOGRAMMIC_SHEIhSMALL_LETTER_CRYPTOGRAMMIC_SHEIhCAPIT
    AL_LETTER_CRYPTOGRAMMIC_GANGIAhSMALL_LETTER_CRYPTOGRAMMIC_GANGIAhCOMBINING_NI_ABOVErSPIRITUS_A
    SPERzbLENISiAPITAL_LETTER_BOHAIRIC_KHEIhSMALL_LETTER_BOHAIRIC_KHEI=2CF9hOLD_NUBIAN_FULL_STOPsD
    IRECT_QUESTION_MARKsINDIRECT_QUESTION_MARKsVERSE_DIVIDERhFRACTION_ONE_HALFiULL_STOPhMORPHOLOGI
    CAL_DIVIDERaGEORGIAN_SMALL_LETTER_ANwBANwGANwDONwENwVINwZENwTANwINwKANwLASwMANwNARwONwPARwZHAR
    wRAEwSANwTARwUNwPHARwKHARwGHANwQARwSHINwCHINxANwJILwCILxHARwXANwJHANwHAExExIEwWEwHARxOE=2D27wY
    N=2D2DwAEN=2D30aTIFINAGH_LETTER_YAsBtHsGtHHqBERBER_ACADEMY_YAJqYAJsDtHtDuHrEYrAFsKqTUAREG_YAKq
    YAKHHsHqBERBER_ACADEMY_YAHqTUAREG_YAHqYAHHsAsKHqTUAREG_YAKHqYAQqTUAREG_YAQqYIrAZHqAHAGGAR_YAZH
    qTUAREG_YAZHqYALsMsNqTUAREG_YAGNzNGqYAPrUrARtRsGHqTUAREG_YAGHqAYER_YAGHqYAStStHsTtHsCHsTTsVsWs
    YsZqTAWELLEMET_YAZqYAZZrErO=2D6FjMODIFIER_LETTER_LABIALIZATION_MARKjSEPARATOR_MARK=2D7FjCONSON
    ANT_JOINERaETHIOPIC_SYLLABLE_LOAsMOAsROAsSOAtHOAsBOAsTOAsCOAsNOAtYOAsGLOTTAL_OAsZOAsDOAtDOAsJO
    AsTHOAsCHOAsPHOAtOAsGGWAvIvEEvE=2DA0sSSAuUuIuAAuEEuEuO=2DA8sCCAuUuIuAAuEEuEuO=2DB0sZZAuUuIuAAu
    EEuEuO=2DB8sCCHAvUvIvAAvEEvEvO=2DC0sQYAuUuIuAAuEEuEuO=2DC8sKYAuUuIuAAuEEuEuO=2DD0sXYAuUuIuAAuE
    EuEuO=2DD8sGYAuUuIuAAuEEuEuO=2DE0aCOMBINING_CYRILLIC_LETTER_BEzbVEzbGHEzbDEzbZHEzcEzbKAzbELzcM
    zcNzbOzbPEzbERzcSzbTEzbHAzbTSEzbCHEzbSHAzdCHAzbFITAzbES-TEzbAzbIEzbDJERVzbMONOGRAPH_UKzbYATzcU
    zbIOTIFIED_AzbLITTLE_YUSzbBIG_YUSzbIOTIFIED_BIG_YUSaRIGHT_ANGLE_SUBSTITUTION_MARKERmDOTTED_SUB
    STITUTION_MARKERaLEFT_SUBSTITUTION_BRACKETaRIGHT_SUBSTITUTION_BRACKETaLEFT_DOTTED_SUBSTITUTION
    _BRACKETaRIGHT_DOTTED_SUBSTITUTION_BRACKETbAISED_INTERPOLATION_MARKERhDOTTED_INTERPOLATION_MAR
    KERaDOTTED_TRANSPOSITION_MARKERaLEFT_TRANSPOSITION_BRACKETaRIGHT_TRANSPOSITION_BRACKETbAISED_S
    QUAREaLEFT_RAISED_OMISSION_BRACKETaRIGHT_RAISED_OMISSION_BRACKETaEDITORIAL_CORONISaPARAGRAPHOS
    aFORKED_PARAGRAPHOSaREVERSED_FORKED_PARAGRAPHOSaHYPODIASTOLEaDOTTED_OBELOScWNWARDS_ANCORAaUPWA
    RDS_ANCORAaDOTTED_RIGHT-POINTING_ANGLEcUBLE_OBLIQUE_HYPHENaINVERTED_INTERROBANGaPALM_BRANCHaHY
    PHEN_WITH_DIAERESISaTILDE_WITH_RING_ABOVEaLEFT_LOW_PARAPHRASE_BRACKETaRIGHT_LOW_PARAPHRASE_BRA
    CKETaTILDE_WITH_DOT_ABOVEpBELOWaLEFT_VERTICAL_BAR_WITH_QUILLaRIGHT_VERTICAL_BAR_WITH_QUILLaTOP
    _LEFT_HALF_BRACKETeRIGHT_HALF_BRACKETaBOTTOM_LEFT_HALF_BRACKEThRIGHT_HALF_BRACKETaLEFT_SIDEWAY
    S_U_BRACKETaRIGHT_SIDEWAYS_U_BRACKETaLEFT_DOUBLE_PARENTHESISaRIGHT_DOUBLE_PARENTHESISaTWO_DOTS
    _OVER_ONE_DOT_PUNCTUATIONaONE_DOT_OVER_TWO_DOTS_PUNCTUATIONaSQUARED_FOUR_DOT_PUNCTUATIONaFIVE_
    DOT_MARKaREVERSED_QUESTION_MARKaVERTICAL_TILDEaRING_POINTaWORD_SEPARATOR_MIDDLE_DOTaTURNED_COM
    MAaRAISED_DOThCOMMAaTURNED_SEMICOLONaDAGGER_WITH_LEFT_GUARDmRIGHT_GUARDaTURNED_DAGGERbOP_HALF_
    SECTION_SIGNbWO-EM_DASHbHREE-EM_DASHaSTENOGRAPHIC_FULL_STOPaVERTICAL_SIX_DOTSaWIGGLY_VERTICAL_
    LINEaCAPITULUMaDOUBLE_HYPHENaREVERSED_COMMAaDOUBLE_LOW-REVERSED-9_QUOTATION_MARKbASH_WITH_LEFT
    _UPTURNbOUBLE_SUSPENSION_MARKaINVERTED_LOW_KAVYKAt_WITH_KAVYKA_ABOVEaLOW_KAVYKAk_WITH_DOTaDOUB
    LE_STACKED_COMMAcTTED_SOLIDUSaTRIPLE_DAGGERaMEDIEVAL_COMMAaPARAGRAPHUS_MARKbUNCTUS_ELEVATUS_MA
    RKaCORNISH_VERSE_DIVIDERbROSS_PATTY_WITH_RIGHT_CROSSBARrLEFT_CROSSBARaTIRONIAN_SIGN_CAPITAL_ET
    aMEDIEVAL_EXCLAMATION_MARKjQUESTION_MARKaLEFT_SQUARE_BRACKET_WITH_STROKEaRIGHT_SQUARE_BRACKET_
    WITH_STROKEaLEFT_SQUARE_BRACKET_WITH_DOUBLE_STROKEaRIGHT_SQUARE_BRACKET_WITH_DOUBLE_STROKEaTOP
    _HALF_LEFT_PARENTHESISjRIGHT_PARENTHESISaBOTTOM_HALF_LEFT_PARENTHESISmRIGHT_PARENTHESISaOBLIQU
    E_HYPHEN=2E80aCJK_RADICAL_REPEATmCLIFFmSECOND_ONEtTWOuHREEmPERSONmBOXmTABLEmKNIFE_ONEsTWOmDIVI
    NATIONmSEALnMALL_ONEsTWOmLAME_ONErTWOsHREErFOURmSNAKEmTHREADmSNOUT_ONEsTWOmHEART_ONEsTWOnANDmR
    AP=2E9BmCHOKEmSUNmMOONmDEATHmMOTHERmCIVILIANmWATER_ONEsTWOmFIREmPAW_ONEqTWOmSIMPLIFIED_HALF_TR
    EE_TRUNKmCOWmDOGmJADEmBOLT_OF_CLOTHmEYEmSPIRIT_ONEtTWOmBAMBOOmSILKmC-SIMPLIFIED_SILKmNET_ONEqT
    WOrHREEqFOURmMESHmSHEEPmRAMmEWEmOLDmBRUSH_ONEsTWOmMEATnORTARmGRASS_ONEsTWOtHREEmTIGERmCLOTHESm
    WEST_ONErTWOmC-SIMPLIFIED_SEEmSIMPLIFIED_HORNmHORNmC-SIMPLIFIED_SPEECHzbHELLmFOOTmC-SIMPLIFIED
    _CARTmSIMPLIFIED_WALKmWALK_ONErTWOmCITYn-SIMPLIFIED_GOLDmLONG_ONErTWOmC-SIMPLIFIED_LONGzGATEmM
    OUND_ONEsTWOmRAINmBLUEmC-SIMPLIFIED_TANNED_LEATHERzLEAFzWINDzFLYmEAT_ONEqTWOrHREEmC-SIMPLIFIED
    _EATmHEADmC-SIMPLIFIED_HORSEmBONEmGHOSTmC-SIMPLIFIED_FISHzBIRDzSALTmSIMPLIFIED_WHEATxYELLOWmC-
    SIMPLIFIED_FROGmJ-SIMPLIFIED_EVENmC-SIMPLIFIED_EVENmJ-SIMPLIFIED_TOOTHmC-SIMPLIFIED_TOOTHmJ-SI
    MPLIFIED_DRAGONmC-SIMPLIFIED_DRAGONmTURTLEmJ-SIMPLIFIED_TURTLEmC-SIMPLIFIED_TURTLE=2F00aKANGXI
    _RADICAL_ONEpLINEpDOTpSLASHqECONDpHOOKpTWOpLIDpMANpLEGSpENTERqIGHTpDOWN_BOXpCOVERpICEpTABLEpOP
    EN_BOXpKNIFEpPOWERpWRAPpSPOONpRIGHT_OPEN_BOXpHIDING_ENCLOSUREpTENpDIVINATIONpSEALpCLIFFpPRIVAT
    EpAGAINpMOUTHpENCLOSUREqARTHpSCHOLARpGOr_SLOWLYpEVENINGpBIGpWOMANpCHILDpROOFpINCHpSMALLpLAMEpC
    ORPSEpSPROUTpMOUNTAINpRIVERpWORKpONESELFpTURBANpDRYpSHORT_THREADpDOTTED_CLIFFpLONG_STRIDEpTWO_
    HANDSpSHOOTpBOWpSNOUTpBRISTLEpSTEPpHEARTqALBERDpDOORpHANDpBRANCHpRAPpSCRIPTpDIPPERpAXEpSQUAREp
    NOTpSUNqAYpMOONpTREEpLACKpSTOPpDEATHpWEAPONpDO_NOTpCOMPAREpFURpCLANpSTEAMpWATERpFIREpCLAWpFATH
    ERpDOUBLE_XpHALF_TREE_TRUNKpSLICEpFANGpCOWpDOGpPROFOUNDpJADEpMELONpTILEpSWEETpLIFEpUSEpFIELDpB
    OLT_OF_CLOTHpSICKNESSpDOTTED_TENTpWHITEpSKINpDISHpEYEpSPEARpARROWpSTONEqPIRITpTRACKpGRAINpCAVE
    pSTANDpBAMBOOpRICEpSILKpJARpNETpSHEEPpFEATHERpOLDpANDpPLOWpEARpBRUSHpMEATqINISTERpSELFpARRIVEp
    MORTARpTONGUEpOPPOSEpBOATpSTOPPINGpCOLORpGRASSpTIGERpINSECTpBLOODpWALK_ENCLOSUREpCLOTHESpWESTp
    SEEpHORNpSPEECHpVALLEYpBEANpPIGpBADGERpSHELLpREDqUNpFOOTpBODYpCARTpBITTERpMORNINGpWALKpCITYpWI
    NEpDISTINGUISHpVILLAGEpGOLDpLONGpGATEpMOUNDpSLAVEqHORT_TAILED_BIRDpRAINpBLUEpWRONGpFACEpLEATHE
    RpTANNED_LEATHERpLEEKpSOUNDpLEAFpWINDpFLYpEATpHEADpFRAGRANTpHORSEpBONEpTALLpHAIRpFIGHTpSACRIFI
    CIAL_WINEpCAULDRONpGHOSTpFISHpBIRDpSALTpDEERpWHEATpHEMPpYELLOWpMILLETpBLACKpEMBROIDERYpFROGpTR
    IPODpDRUMpRATpNOSEpEVENpTOOTHpDRAGONpTURTLEpFLUTE=2FF0aIDEOGRAPHIC_DESCRIPTION_CHARACTER_LEFT_
    TO_RIGHTzjABOVE_TO_BELOWzjLEFT_TO_MIDDLE_AND_RIGHTzjABOVE_TO_MIDDLE_AND_BELOWzjFULL_SURROUNDzj
    SURROUND_FROM_ABOVEzxBELOWzxLEFTzxUPPER_LEFTzzeRIGHTzxLOWER_LEFTzjOVERLAID=3000mSPACEmCOMMAmFU
    LL_STOPaDITTO_MARKaJAPANESE_INDUSTRIAL_STANDARD_SYMBOLaIDEOGRAPHIC_ITERATION_MARKmCLOSING_MARK
    mNUMBER_ZEROaLEFT_ANGLE_BRACKETaRIGHT_ANGLE_BRACKETaLEFT_DOUBLE_ANGLE_BRACKETaRIGHT_DOUBLE_ANG
    LE_BRACKETaLEFT_CORNER_BRACKETaRIGHT_CORNER_BRACKETaLEFT_WHITE_CORNER_BRACKETaRIGHT_WHITE_CORN
    ER_BRACKETaLEFT_BLACK_LENTICULAR_BRACKETaRIGHT_BLACK_LENTICULAR_BRACKETaPOSTAL_MARKaGETA_MARKa
    LEFT_TORTOISE_SHELL_BRACKETaRIGHT_TORTOISE_SHELL_BRACKETaLEFT_WHITE_LENTICULAR_BRACKETaRIGHT_W
    HITE_LENTICULAR_BRACKETaLEFT_WHITE_TORTOISE_SHELL_BRACKETaRIGHT_WHITE_TORTOISE_SHELL_BRACKETaL
    EFT_WHITE_SQUARE_BRACKETaRIGHT_WHITE_SQUARE_BRACKETaWAVE_DASHaREVERSED_DOUBLE_PRIME_QUOTATION_
    MARKaDOUBLE_PRIME_QUOTATION_MARKaLOW_DOUBLE_PRIME_QUOTATION_MARKaPOSTAL_MARK_FACEaHANGZHOU_NUM
    ERAL_ONErTWOsHREErFOURsIVErSIXsEVENrEIGHTrNINEaIDEOGRAPHIC_LEVEL_TONE_MARKmRISING_TONE_MARKmDE
    PARTING_TONE_MARKmENTERING_TONE_MARKaHANGUL_SINGLE_DOT_TONE_MARKhDOUBLE_DOT_TONE_MARKaWAVY_DAS
    HaVERTICAL_KANA_REPEAT_MARKvWITH_VOICED_SOUND_MARKvMARK_UPPER_HALFvWITH_VOICED_SOUND_MARK_UPPE
    R_HALFvMARK_LOWER_HALFaCIRCLED_POSTAL_MARKaIDEOGRAPHIC_TELEGRAPH_LINE_FEED_SEPARATOR_SYMBOLaHA
    NGZHOU_NUMERAL_TENsWENTYsHIRTYaVERTICAL_IDEOGRAPHIC_ITERATION_MARKaMASU_MARKaPART_ALTERNATION_
    MARKaIDEOGRAPHIC_VARIATION_INDICATORmHALF_FILL_SPACE=3041aHIRAGANA_LETTER_SMALL_AqAqSMALL_IqIq
    SMALL_UqUqSMALL_EqEqSMALL_OqOqKAqGAqKIqGIqKUqGUqKEqGEqKOqGOqSAqZAqSIqZIqSUqZUqSEqZEqSOqZOqTAqD
    AqTIqDIqSMALL_TUqTUqDUqTEqDEqTOqDOqNArIrUrErOqHAqBAqPAqHIqBIqPIqHUqBUqPUqHEqBEqPEqHOqBOqPOqMAr
    IrUrErOqSMALL_YAqYAqSMALL_YUqYUqSMALL_YOqYOqRArIrUrErOqSMALL_WAqWArIrErOqNqVUqSMALL_KAxE=3099a
    COMBINING_KATAKANA-HIRAGANA_VOICED_SOUND_MARKzdSEMI-VOICED_SOUND_MARKaKATAKANA-HIRAGANA_VOICED
    _SOUND_MARKsSEMI-VOICED_SOUND_MARKaHIRAGANA_ITERATION_MARKjVOICED_ITERATION_MARKjDIGRAPH_YORIa
    KATAKANA-HIRAGANA_DOUBLE_HYPHENi_LETTER_SMALL_AqAqSMALL_IqIqSMALL_UqUqSMALL_EqEqSMALL_OqOqKAqG
    AqKIqGIqKUqGUqKEqGEqKOqGOqSAqZAqSIqZIqSUqZUqSEqZEqSOqZOqTAqDAqTIqDIqSMALL_TUqTUqDUqTEqDEqTOqDO
    qNArIrUrErOqHAqBAqPAqHIqBIqPIqHUqBUqPUqHEqBEqPEqHOqBOqPOqMArIrUrErOqSMALL_YAqYAqSMALL_YUqYUqSM
    ALL_YOqYOqRArIrUrErOqSMALL_WAqWArIrErOqNqVUqSMALL_KAxEqVArIrErOjMIDDLE_DOTi-HIRAGANA_PROLONGED
    _SOUND_MARKi_ITERATION_MARKjVOICED_ITERATION_MARKjDIGRAPH_KOTO=3105aBOPOMOFO_LETTER_BqPqMqFqDq
    TqNqLqGqKqHqJqQqXqZHqCHqSHqRqZqCqSqAqOqErHqAIqEIqAUqOUqANqENqANGqENGrRqIqUqIUqVqNGqGNqIHqO_WIT
    H_DOT_ABOVEqNN=3131aHANGUL_LETTER_KIYEOKoSSANGKIYEOKoKIYEOK-SIOSoNIEUNt-CIEUCuHIEUHoTIKEUToSSA
    NGTIKEUToRIEULt-KIYEOKuMIEUMuPIEUPuSIOSuTHIEUTHuPHIEUPHuHIEUHoMIEUMoPIEUPoSSANGPIEUPoPIEUP-SIO
    SoSIOSpSANGSIOSoIEUNGoCIEUCoSSANGCIEUCoCHIEUCHoKHIEUKHoTHIEUTHoPHIEUPHoHIEUHoApEoYAqEoEOoEoYEO
    pEoOoWAqEoOEoYOoUoWEOpEpIoYUoEUoYIoIhFILLERhLETTER_SSANGNIEUNoNIEUN-TIKEUTuSIOSuPANSIOSoRIEUL-
    KIYEOK-SIOSuTIKEUTuPIEUP-SIOSvANSIOSuYEORINHIEUHoMIEUM-PIEUPuSIOSuPANSIOSoKAPYEOUNMIEUMoPIEUP-
    KIYEOKuTIKEUTuSIOS-KIYEOKzTIKEUTuCIEUCuTHIEUTHoKAPYEOUNPIEUPwSSANGPIEUPoSIOS-KIYEOKtNIEUNtTIKE
    UTtPIEUPtCIEUCoPANSIOSoSSANGIEUNGoYESIEUNGw-SIOSxPANSIOSoKAPYEOUNPHIEUPHoSSANGHIEUHoYEORINHIEU
    HpO-YAtErIpU-YEOsErIoARAEAtE=3190aIDEOGRAPHIC_ANNOTATION_LINKING_MARKxREVERSE_MARKxONE_MARKxTW
    O_MARKyHREE_MARKxFOUR_MARKxTOP_MARKxMIDDLE_MARKxBOTTOM_MARKxFIRST_MARKxSECOND_MARKxTHIRD_MARKx
    FOURTH_MARKxHEAVEN_MARKxEARTH_MARKxMAN_MARKaBOPOMOFO_LETTER_BUqZIqJIqGUqEErNNqOOrNNqIRqANNqINN
    qUNNqIMqNGGqAINNrUNNrMqOMrNGqINNNjFINAL_LETTER_PwTwKwHjLETTER_GHqLHqZYjFINAL_LETTER_GjLETTER_G
    WqKWqOEqAHaCJK_STROKE_TlWGlXGlBXGlSWlHZZnGmPmZWGlSZWGlHZTnZPmPWGmZWnZZlNlHlSlPlSPlDlHZmGlSZmWZ
    mTmGlPDmZlTNlSZZmWGlHXWGmZZZGlPGlQ=31F0aKATAKANA_LETTER_SMALL_KUwSIxUwTOwNUwHAxIxUxExOwMUwRAxI
    xUxExOaPARENTHESIZED_HANGUL_KIYEOKvNIEUNvTIKEUTvRIEULvMIEUMvPIEUPvSIOSvIEUNGvCIEUCwHIEUCHvKHIE
    UKHvTHIEUTHvPHIEUPHvHIEUHvKIYEOK_AvNIEUN_AvTIKEUT_AvRIEUL_AvMIEUM_AvPIEUP_AvSIOS_AvIEUNG_AvCIE
    UC_AwHIEUCH_AvKHIEUKH_AvTHIEUTH_AvPHIEUPH_AvHIEUH_AvCIEUC_UoKOREAN_CHARACTER_OJEONzh_HU=3220oI
    DEOGRAPH_ONEyTWOzHREEyFOURzIVEySIXzEVENyEIGHTyNINEyTENyMOONyFIREyWATERzOODyMETALyEARTHySUNzTOC
    KyHAVEySOCIETYyNAMEySPECIALyFINANCIALyCONGRATULATIONyLABORyREPRESENTyCALLySTUDYzUPERVISEyENTER
    PRISEyRESOURCEyALLIANCEyFESTIVALyRESTySELFyREACHaCIRCLED_IDEOGRAPH_QUESTIONsKINDERGARTENsSCHOO
    LsKOTOiNUMBER_TEN_ON_BLACK_SQUAREqWENTY_ON_BLACK_SQUAREqHIRTY_ON_BLACK_SQUAREpFORTY_ON_BLACK_S
    QUAREqIFTY_ON_BLACK_SQUAREpSIXTY_ON_BLACK_SQUAREqEVENTY_ON_BLACK_SQUAREpEIGHTY_ON_BLACK_SQUARE
    aPARTNERSHIP_SIGNaCIRCLED_NUMBER_TWENTY_ONEwTWOxHREEwFOURxIVEwSIXxEVENwEIGHTwNINEqHIRTYv_ONEwT
    WOxHREEwFOURxIVEiHANGUL_KIYEOKpNIEUNpTIKEUTpRIEULpMIEUMpPIEUPpSIOSpIEUNGpCIEUCqHIEUCHpKHIEUKHp
    THIEUTHpPHIEUPHpHIEUHpKIYEOK_ApNIEUN_ApTIKEUT_ApRIEUL_ApMIEUM_ApPIEUP_ApSIOS_ApIEUNG_ApCIEUC_A
    qHIEUCH_ApKHIEUKH_ApTHIEUTH_ApPHIEUPH_ApHIEUH_AiKOREAN_CHARACTER_CHAMKOzJUEUIiHANGUL_IEUNG_UaK
    OREAN_STANDARD_SYMBOLaCIRCLED_IDEOGRAPH_ONEsTWOtHREEsFOURtIVEsSIXtEVENsEIGHTsNINEsTENsMOONsFIR
    EsWATERtOODsMETALsEARTHsSUNtTOCKsHAVEsSOCIETYsNAMEsSPECIALsFINANCIALsCONGRATULATIONsLABORsSECR
    ETsMALEsFEMALEsSUITABLEsEXCELLENTsPRINTsATTENTIONsITEMsRESTsCOPYuRRECTsHIGHsCENTREsLOWtEFTsRIG
    HTsMEDICINEsRELIGIONsSTUDYtUPERVISEsENTERPRISEsRESOURCEsALLIANCEsNIGHTiNUMBER_THIRTY_SIXxEVENw
    EIGHTwNINEpFORTYu_ONEvTWOwHREEvFOURwIVEvSIXwEVENvEIGHTvNINEqIFTYaIDEOGRAPHIC_TELEGRAPH_SYMBOL_
    FOR_JANUARYziFEBRUARYziMARCHziAPRILziMAYziJUNEzkLYziAUGUSTziSEPTEMBERziOCTOBERziNOVEMBERziDECE
    MBERaSQUARE_HGhERGiVaLIMITED_LIABILITY_SIGNaCIRCLED_KATAKANA_ArIrUrErOrKAsIsUsEsOrSAsIsUsEsOrT
    AsIsUsEsOrNAsIsUsEsOrHAsIsUsEsOrMAsIsUsEsOrYAsUsOrRAsIsUsEsOrWAsIsEsOaSQUARE_ERA_NAME_REIWAhAP
    AATOiRUHUAiNPEAiARUhININGUjTIhUONhESUKUUDOiEKAAhONSUiOMUhKAIRIjRATTOkORIIhGARONjNMAiIGAjNIIhKY
    URIIhGIRUDAAhKIROlGURAMUlMEETORUlWATTOhGURAMUnTONhKURUZEIROkOONEiEESUiORUNAjOPOhSAIKURUjNTIIMU
    iIRINGUiENTIlOhDAASUiESIiORUhTONhNANOiOTTOhHAITUhPAASENTOkTUhBAARERUhPIASUTORUjKURUkOhBIRUhHUA
    RADDOjIITOhBUSSYERUhHURANiEKUTAARUhPESOjNIHIhHERUTUhPENSUjEZIhBEETAhPOINTOhBORUTOhHONhPONDOhHO
    ORUkNhMAIKUROkRUjHHAjRUKUjNSYONiIKURONjRIlBAARUiEGAlTONjETORUhYAADOkRUiUANhRITTORUjRAiUPIIjUBU
    RUiEMUjNTOGENhWATTOaIDEOGRAPHIC_TELEGRAPH_SYMBOL_FOR_HOUR_ZEROznONEznTWOzoHREEznFOURzoIVEznSIX
    zoEVENznEIGHTznNINEznTENznELEVENznTWELVEzoHIRTEENznFOURTEENzoIFTEENznSIXTEENzoEVENTEENznEIGHTE
    ENznNINETEENznTWENTYzt-ONEzuTWOzvHREEzuFOURaSQUARE_HPAhDAhAUhBARhOVhPChDMj_SQUAREDkCUBEDhIUhER
    A_NAME_HEISEIqSYOUWAqTAISYOUqMEIZIhCORPORATIONhPA_AMPShNAhMU_AiAhKAiBhMBhGBhCALhKCALhPFhNFhMU_
    FkGiGhKGhHZhKHZhMHZhGHZhTHZhMU_LiLhDLhKLhFMhNMhMU_MiMhCMhKMhMM_SQUAREDhCM_SQUAREDhM_SQUAREDhKM
    _SQUAREDhMM_CUBEDhCM_CUBEDhM_CUBEDhKM_CUBEDhM_OVER_Sp_SQUAREDhPAhKPAhMPAhGPAhRADk_OVER_Sr_SQUA
    REDhPShNShMU_SiShPVhNVhMU_ViVhKVhMV_MEGAhPWhNWhMU_WiWhKWhMW_MEGAhK_OHMhM_OHMhAMhBQhCCiDi_OVER_
    KGiOhDBhGYhHAiPhINhKKiM_CAPITALiThLMiNiOGiXhMB_SMALLiILiOLhPHiMiPMiRhSRiVhWBhV_OVER_MhA_OVER_M
    aIDEOGRAPHIC_TELEGRAPH_SYMBOL_FOR_DAY_ONEzmTWOznHREEzmFOURznIVEzmSIXznEVENzmEIGHTzmNINEzmTENzm
    ELEVENzmTWELVEznHIRTEENzmFOURTEENznIFTEENzmSIXTEENznEVENTEENzmEIGHTEENzmNINETEENzmTWENTYzs-ONE
    ztTWOzuHREEztFOURzuIVEztSIXzuEVENztEIGHTztNINEznHIRTYzs-ONEaSQUARE_GAL=4DC0aHEXAGRAM_FOR_THE_C
    REATIVE_HEAVENrRECEPTIVE_EARTHnDIFFICULTY_AT_THE_BEGINNINGnYOUTHFUL_FOLLYnWAITINGnCONFLICTnTHE
    _ARMYnHOLDING_TOGETHERnSMALL_TAMINGnTREADINGnPEACEnSTANDSTILLnFELLOWSHIPnGREAT_POSSESSIONnMODE
    STYnENTHUSIASMnFOLLOWINGnWORK_ON_THE_DECAYEDnAPPROACHnCONTEMPLATIONnBITING_THROUGHnGRACEnSPLIT
    TING_APARTnRETURNnINNOCENCEnGREAT_TAMINGnMOUTH_CORNERSnGREAT_PREPONDERANCEnTHE_ABYSMAL_WATERrC
    LINGING_FIREnINFLUENCEnDURATIONnRETREATnGREAT_POWERnPROGRESSnDARKENING_OF_THE_LIGHTnTHE_FAMILY
    nOPPOSITIONoBSTRUCTIONnDELIVERANCEpCREASEnINCREASEnBREAKTHROUGHnCOMING_TO_MEETnGATHERING_TOGET
    HERnPUSHING_UPWARDnOPPRESSIONnTHE_WELLnREVOLUTIONnTHE_CAULDRONrAROUSING_THUNDERrKEEPING_STILL_
    MOUNTAINnDEVELOPMENTnTHE_MARRYING_MAIDENnABUNDANCEnTHE_WANDERERrGENTLE_WINDrJOYOUS_LAKEnDISPER
    SIONnLIMITATIONnINNER_TRUTHnSMALL_PREPONDERANCEnAFTER_COMPLETIONnBEFORE_COMPLETION=A000aYI_SYL
    LABLE_ITnXmInPnEToXnEoPmATnXmAnPmUOXnOoPmOTnXmOnPmEXmEmWUmBIToXnIoPoETpXoEpPnAToXnAoPnUOXoOpPn
    OToXnOoPnEXnEoPnUToXnUoPoRXoRnYToXnYoPoRXoRmPIToXnIoPoEXoEpPnAToXnAoPnUOXoOpPnOToXnOoPnUToXnUo
    PoRXoRnYToXnYoPoRXoRmBBITpXoIpPpETqXpEqPoATpXoApPoUOXpOqPoOTpXoOpPoEXoEpPoUTpXoUpPpRXpRoYTpXoY
    pPmNBITpXoIpPpEXpEqPoATpXoApPoOTpXoOpPoUTpXoUpPpRXpRoYTpXoYpPpRXpRmHMITpXoIpPpEXpEqPoATpXoApPo
    UOXpOqPoOTpXoOpPoUTpXoUpPpRXpRoYXoYpPpRXpRmMIToXnIoPoEXoEpPnAToXnAoPnUOTpXoOpPnOToXnOoPnEXnEnU
    ToXnUoPoRXoRnYToXnYoPmFIToXnIoPnAToXnAoPnOXnOoPnUToXnUoPoRXoRnYToXnYoPmVIToXnIoPoETpXoEpPnAToX
    nAoPnOToXnOoPnEXoPnUToXnUoPoRXoRnYToXnYoPoRXoRmDIToXnIoPoEXoEpPnAToXnAoPnUOXoOnOToXnOoPnEXnEoP
    nUToXnUoPoRXoRmTIToXnIoPoEXoEpPnAToXnAoPnUOTpXoOpPnOToXnOoPnEXnEoPnUToXnUoPoRXoRmDDITpXoIpPpEX
    pEqPoATpXoApPoUOXpOqPoOTpXoOpPoEXoEpPoUTpXoUpPpRXpRmNDITpXoIpPpEXpEoATpXoApPoOTpXoOpPoEXoEpPoU
    TpXoUpPpRXpRmHNITpXoIpPpETqXpEqPoATpXoApPoUOXpOoOTpXpPoEXoEpPoUTmNIToXnIoPoEXoEpPnAXnAoPnUOXoO
    pPnOToXnOoPnEXnEoPnUToXnUoPoRXoRmHLITpXoIpPpEXpEqPoATpXoApPoUOXpOqPoOXoOpPoEXoEpPoUTpXoUpPpRXp
    RoYTpXoYpPpRXpRmLIToXnIoPoETpXoEpPnAToXnAoPnUOTpXoOpPnOToXnOoPnEXnEoPnUToXnUoPoRXoRnYToXnYoPoR
    XoRmGIToXnIoPoETpXoEpPnAToXnAoPnUOTpXoOpPnOToXnOoPnEToXnEoPnUToXnUoPoRXoRmKIToXnIoPoEXoEpPnATo
    XnAoPnUOXoOpPnOToXnOoPnEToXnEoPnUToXnUoPoRXoRmGGITpXoIpEXpEqPoATpXoApPoUOTqXpOqPoOTpXoOpPoETpX
    oEpPoUTpXoUpPpRXpRmMGIEXpEoATpXoApPoUOXpOqPoOTpXoOpPoEXoEpPoUTpXoUpPpRXpRmHXITpXoIpPpETqXpEqPo
    ATpXoApPoUOTqXpOqPoOTpXoOpPoEXoEpPmNGIEXpEqPoATpXoApPoUOTqXpOoOTpXoOpPoEXoEpPmHIToEXoEnAToXnAo
    PnUOTpXoOpPnOToXnOoPnEXnEoPmWAToXnAoPnUOXoOpPnOXnOoPnEXnEoPmZIToXnIoPoEXoEpPnAToXnAoPnUOXoOpPn
    OToXnOoPnEXnEoPnUToXnUoPoRXoRnYToXnYoPoRXoRmCIToXnIoPoETpXoEpPnAToXnAoPnUOXoOpPnOToXnOoPnEXnEo
    PnUToXnUoPoRXoRnYToXnYoPoRXoRmZZITpXoIpPpETqXpEqPoATpXoApPoOXoOpPoEXoEpPoUXoUpPpRXpRoYTpXoYpPp
    RXpRmNZITpXoIpPpEXpEqPoATpXoApPoUOXpOoOXpPoEXoEoUXoUpPpRXpRoYTpXoYpPpRXpRmSIToXnIoPoEXoEpPnATo
    XnAoPnUOXoOpPnOToXnOoPnEXnEoPnUToXnUoPoRXoRnYToXnYoPoRXoRnSITpXoIpPpEXpEqPoATpXoApPoOTpXoOpPoE
    XoEpPoUTpXoUpPoYTpXoYpPpRXpRmZHATpXoApPoUOXpOqPoOTpXoOpPoETpXoEpPoUTpXoUpPpRXpRoYTpXoYpPpRXpRm
    CHATpXoApPoUOTqXpOqPoOTpXoOpPoETpXoEpPoUXoUpPpRXpRoYTpXoYpPpRXpRmRRAXoAoUOXpOoOTpXoOpPoETpXoEp
    PoUTpXoUpPpRXpRoYTpXoYpPpRXpRmNRATpXoApPoOXoOpPoETpXoEpPoUTpXoUpPpRXpRoYTpXoYpPpRXpRmSHATpXoAp
    PoUOXpOqPoOTpXoOpPoETpXoEpPoUTpXoUpPpRXpRoYTpXoYpPpRXpRmRAToXnAoPnUOXoOpPnOToXnOoPnEXnEoPnUToX
    nUoPoRXoRnYToXnYoPoRXoRmJIToXnIoPoETpXoEpPnUOTpXoOpPnOToXnOoPnUToXnUoPoRXoRnYToXnYoPoRXoRmQITo
    XnIoPoETpXoEpPnUOTpXoOpPnOToXnOoPnUToXnUoPoRXoRnYToXnYoPoRXoRmJJITpXoIpPpETqXpEqPoUOXpOqPoOTpX
    oOpPoUTpXoUpPpRXpRoYTpXoYpPmNJITpXoIpPpETqXpEqPoUOXpOoOTpXoOpPoUXoUpPpRXpRoYTpXoYpPpRXpRnYITpX
    oIpPpETqXpEqPoUOXpOqPoOTpXoOpPoUTpXoUpPmXIToXnIoPoETpXoEpPnUOXoOnOToXnOoPnYToXnYoPoRXoRmYIToXn
    IoPoETpXoEpPnUOTpXoOpPnOToXnOoPnUToXnUoPoRXoRnYToXnYoPoRXoR=A490dRADICAL_QOTlLIlKITlNYIPlCYPlS
    SIlGGOPmEPlMIlHXITlLYRlBBUTlMOPlYOlPUTlHXUOlTATlGAlZUPlCYTlDDURlBURlGGUOlNYOPlTUlOPlJJUTlZOTlP
    YTlHMOlYITlVURlSHYlVEPlZAlJOlNZUPlJJYlGOTlJJIElWOlDUlSHURlLIElCYmUOPmIPlHXOPlSHATlZURlSHOPlCHE
    lZZIETlNBIElKE"

end Assay.Text
