/-!
# Names of characters: alphabets

The names of the alphabets and marks of the first blocks (Unicode 14), in the form that `CharacterName` reads.
-/

namespace Assay.Text

/-- The names of the alphabets and marks of the first blocks. -/
def alphabetNames : String :=
  "=20aSPACEaEXCLAMATION_MARKaQUOTATION_MARKaNUMBER_SIGNaDOLLAR_SIGNaPERCENT_SIGNaAMPERSANDbPOSTR
    OPHEaLEFT_PARENTHESISaRIGHT_PARENTHESISaASTERISKaPLUS_SIGNaCOMMAaHYPHEN-MINUSaFULL_STOPaSOLIDU
    SaDIGIT_ZEROgONEgTWOhHREEgFOURhIVEgSIXhEVENgEIGHTgNINEaCOLONaSEMICOLONaLESS-THAN_SIGNaEQUALS_S
    IGNaGREATER-THAN_SIGNaQUESTION_MARKaCOMMERCIAL_ATaLATIN_CAPITAL_LETTER_AvBvCvDvEvFvGvHvIvJvKvL
    vMvNvOvPvQvRvSvTvUvVvWvXvYvZbEFT_SQUARE_BRACKETaREVERSE_SOLIDUSbIGHT_SQUARE_BRACKETaCIRCUMFLEX
    _ACCENTaLOW_LINEaGRAVE_ACCENTaLATIN_SMALL_LETTER_AtBtCtDtEtFtGtHtItJtKtLtMtNtOtPtQtRtStTtUtVtW
    tXtYtZbEFT_CURLY_BRACKETaVERTICAL_LINEaRIGHT_CURLY_BRACKETaTILDE=A0aNO-BREAK_SPACEaINVERTED_EX
    CLAMATION_MARKaCENT_SIGNaPOUND_SIGNaCURRENCY_SIGNaYEN_SIGNaBROKEN_BARaSECTION_SIGNaDIAERESISaC
    OPYRIGHT_SIGNaFEMININE_ORDINAL_INDICATORaLEFT-POINTING_DOUBLE_ANGLE_QUOTATION_MARKaNOT_SIGNaSO
    FT_HYPHENaREGISTERED_SIGNaMACRONaDEGREE_SIGNaPLUS-MINUS_SIGNaSUPERSCRIPT_TWOnHREEaACUTE_ACCENT
    aMICRO_SIGNaPILCROW_SIGNaMIDDLE_DOTaCEDILLAaSUPERSCRIPT_ONEaMASCULINE_ORDINAL_INDICATORaRIGHT-
    POINTING_DOUBLE_ANGLE_QUOTATION_MARKaVULGAR_FRACTION_ONE_QUARTERuHALFqTHREE_QUARTERSaINVERTED_
    QUESTION_MARKaLATIN_CAPITAL_LETTER_A_WITH_GRAVEzdACUTEzdCIRCUMFLEXzdTILDEzdDIAERESISzdRING_ABO
    VEwEvC_WITH_CEDILLAvE_WITH_GRAVEzdACUTEzdCIRCUMFLEXzdDIAERESISvI_WITH_GRAVEzdACUTEzdCIRCUMFLEX
    zdDIAERESISvETHvN_WITH_TILDEvO_WITH_GRAVEzdACUTEzdCIRCUMFLEXzdTILDEzdDIAERESISaMULTIPLICATION_
    SIGNaLATIN_CAPITAL_LETTER_O_WITH_STROKEvU_WITH_GRAVEzdACUTEzdCIRCUMFLEXzdDIAERESISvY_WITH_ACUT
    EvTHORNgSMALL_LETTER_SHARP_StA_WITH_GRAVEzbACUTEzbCIRCUMFLEXzbTILDEzbDIAERESISzbRING_ABOVEuEtC
    _WITH_CEDILLAtE_WITH_GRAVEzbACUTEzbCIRCUMFLEXzbDIAERESIStI_WITH_GRAVEzbACUTEzbCIRCUMFLEXzbDIAE
    RESIStETHtN_WITH_TILDEtO_WITH_GRAVEzbACUTEzbCIRCUMFLEXzbTILDEzbDIAERESISaDIVISION_SIGNaLATIN_S
    MALL_LETTER_O_WITH_STROKEtU_WITH_GRAVEzbACUTEzbCIRCUMFLEXzbDIAERESIStY_WITH_ACUTEtTHORNtY_WITH
    _DIAERESISgCAPITAL_LETTER_A_WITH_MACRONgSMALL_LETTER_A_WITH_MACRONgCAPITAL_LETTER_A_WITH_BREVE
    gSMALL_LETTER_A_WITH_BREVEgCAPITAL_LETTER_A_WITH_OGONEKgSMALL_LETTER_A_WITH_OGONEKgCAPITAL_LET
    TER_C_WITH_ACUTEgSMALL_LETTER_C_WITH_ACUTEgCAPITAL_LETTER_C_WITH_CIRCUMFLEXgSMALL_LETTER_C_WIT
    H_CIRCUMFLEXgCAPITAL_LETTER_C_WITH_DOT_ABOVEgSMALL_LETTER_C_WITH_DOT_ABOVEgCAPITAL_LETTER_C_WI
    TH_CARONgSMALL_LETTER_C_WITH_CARONgCAPITAL_LETTER_D_WITH_CARONgSMALL_LETTER_D_WITH_CARONgCAPIT
    AL_LETTER_D_WITH_STROKEgSMALL_LETTER_D_WITH_STROKEgCAPITAL_LETTER_E_WITH_MACRONgSMALL_LETTER_E
    _WITH_MACRONgCAPITAL_LETTER_E_WITH_BREVEgSMALL_LETTER_E_WITH_BREVEgCAPITAL_LETTER_E_WITH_DOT_A
    BOVEgSMALL_LETTER_E_WITH_DOT_ABOVEgCAPITAL_LETTER_E_WITH_OGONEKgSMALL_LETTER_E_WITH_OGONEKgCAP
    ITAL_LETTER_E_WITH_CARONgSMALL_LETTER_E_WITH_CARONgCAPITAL_LETTER_G_WITH_CIRCUMFLEXgSMALL_LETT
    ER_G_WITH_CIRCUMFLEXgCAPITAL_LETTER_G_WITH_BREVEgSMALL_LETTER_G_WITH_BREVEgCAPITAL_LETTER_G_WI
    TH_DOT_ABOVEgSMALL_LETTER_G_WITH_DOT_ABOVEgCAPITAL_LETTER_G_WITH_CEDILLAgSMALL_LETTER_G_WITH_C
    EDILLAgCAPITAL_LETTER_H_WITH_CIRCUMFLEXgSMALL_LETTER_H_WITH_CIRCUMFLEXgCAPITAL_LETTER_H_WITH_S
    TROKEgSMALL_LETTER_H_WITH_STROKEgCAPITAL_LETTER_I_WITH_TILDEgSMALL_LETTER_I_WITH_TILDEgCAPITAL
    _LETTER_I_WITH_MACRONgSMALL_LETTER_I_WITH_MACRONgCAPITAL_LETTER_I_WITH_BREVEgSMALL_LETTER_I_WI
    TH_BREVEgCAPITAL_LETTER_I_WITH_OGONEKgSMALL_LETTER_I_WITH_OGONEKgCAPITAL_LETTER_I_WITH_DOT_ABO
    VEgSMALL_LETTER_DOTLESS_IgCAPITAL_LIGATURE_IJgSMALL_LIGATURE_IJgCAPITAL_LETTER_J_WITH_CIRCUMFL
    EXgSMALL_LETTER_J_WITH_CIRCUMFLEXgCAPITAL_LETTER_K_WITH_CEDILLAgSMALL_LETTER_K_WITH_CEDILLAuRA
    gCAPITAL_LETTER_L_WITH_ACUTEgSMALL_LETTER_L_WITH_ACUTEgCAPITAL_LETTER_L_WITH_CEDILLAgSMALL_LET
    TER_L_WITH_CEDILLAgCAPITAL_LETTER_L_WITH_CARONgSMALL_LETTER_L_WITH_CARONgCAPITAL_LETTER_L_WITH
    _MIDDLE_DOTgSMALL_LETTER_L_WITH_MIDDLE_DOTgCAPITAL_LETTER_L_WITH_STROKEgSMALL_LETTER_L_WITH_ST
    ROKEgCAPITAL_LETTER_N_WITH_ACUTEgSMALL_LETTER_N_WITH_ACUTEgCAPITAL_LETTER_N_WITH_CEDILLAgSMALL
    _LETTER_N_WITH_CEDILLAgCAPITAL_LETTER_N_WITH_CARONgSMALL_LETTER_N_WITH_CARONvPRECEDED_BY_APOST
    ROPHEgCAPITAL_LETTER_ENGgSMALL_LETTER_ENGgCAPITAL_LETTER_O_WITH_MACRONgSMALL_LETTER_O_WITH_MAC
    RONgCAPITAL_LETTER_O_WITH_BREVEgSMALL_LETTER_O_WITH_BREVEgCAPITAL_LETTER_O_WITH_DOUBLE_ACUTEgS
    MALL_LETTER_O_WITH_DOUBLE_ACUTEgCAPITAL_LIGATURE_OEgSMALL_LIGATURE_OEgCAPITAL_LETTER_R_WITH_AC
    UTEgSMALL_LETTER_R_WITH_ACUTEgCAPITAL_LETTER_R_WITH_CEDILLAgSMALL_LETTER_R_WITH_CEDILLAgCAPITA
    L_LETTER_R_WITH_CARONgSMALL_LETTER_R_WITH_CARONgCAPITAL_LETTER_S_WITH_ACUTEgSMALL_LETTER_S_WIT
    H_ACUTEgCAPITAL_LETTER_S_WITH_CIRCUMFLEXgSMALL_LETTER_S_WITH_CIRCUMFLEXgCAPITAL_LETTER_S_WITH_
    CEDILLAgSMALL_LETTER_S_WITH_CEDILLAgCAPITAL_LETTER_S_WITH_CARONgSMALL_LETTER_S_WITH_CARONgCAPI
    TAL_LETTER_T_WITH_CEDILLAgSMALL_LETTER_T_WITH_CEDILLAgCAPITAL_LETTER_T_WITH_CARONgSMALL_LETTER
    _T_WITH_CARONgCAPITAL_LETTER_T_WITH_STROKEgSMALL_LETTER_T_WITH_STROKEgCAPITAL_LETTER_U_WITH_TI
    LDEgSMALL_LETTER_U_WITH_TILDEgCAPITAL_LETTER_U_WITH_MACRONgSMALL_LETTER_U_WITH_MACRONgCAPITAL_
    LETTER_U_WITH_BREVEgSMALL_LETTER_U_WITH_BREVEgCAPITAL_LETTER_U_WITH_RING_ABOVEgSMALL_LETTER_U_
    WITH_RING_ABOVEgCAPITAL_LETTER_U_WITH_DOUBLE_ACUTEgSMALL_LETTER_U_WITH_DOUBLE_ACUTEgCAPITAL_LE
    TTER_U_WITH_OGONEKgSMALL_LETTER_U_WITH_OGONEKgCAPITAL_LETTER_W_WITH_CIRCUMFLEXgSMALL_LETTER_W_
    WITH_CIRCUMFLEXgCAPITAL_LETTER_Y_WITH_CIRCUMFLEXgSMALL_LETTER_Y_WITH_CIRCUMFLEXgCAPITAL_LETTER
    _Y_WITH_DIAERESISvZ_WITH_ACUTEgSMALL_LETTER_Z_WITH_ACUTEgCAPITAL_LETTER_Z_WITH_DOT_ABOVEgSMALL
    _LETTER_Z_WITH_DOT_ABOVEgCAPITAL_LETTER_Z_WITH_CARONgSMALL_LETTER_Z_WITH_CARONtLONG_StB_WITH_S
    TROKEgCAPITAL_LETTER_B_WITH_HOOKzdTOPBARgSMALL_LETTER_B_WITH_TOPBARgCAPITAL_LETTER_TONE_SIXgSM
    ALL_LETTER_TONE_SIXgCAPITAL_LETTER_OPEN_OvC_WITH_HOOKgSMALL_LETTER_C_WITH_HOOKgCAPITAL_LETTER_
    AFRICAN_DvD_WITH_HOOKzdTOPBARgSMALL_LETTER_D_WITH_TOPBARtTURNED_DELTAgCAPITAL_LETTER_REVERSED_
    EvSCHWAvOPEN_EvF_WITH_HOOKgSMALL_LETTER_F_WITH_HOOKgCAPITAL_LETTER_G_WITH_HOOKwAMMAgSMALL_LETT
    ER_HVgCAPITAL_LETTER_IOTAw_WITH_STROKEvK_WITH_HOOKgSMALL_LETTER_K_WITH_HOOKtL_WITH_BARuAMBDA_W
    ITH_STROKEgCAPITAL_LETTER_TURNED_MvN_WITH_LEFT_HOOKgSMALL_LETTER_N_WITH_LONG_RIGHT_LEGgCAPITAL
    _LETTER_O_WITH_MIDDLE_TILDEzdHORNgSMALL_LETTER_O_WITH_HORNgCAPITAL_LETTER_OIgSMALL_LETTER_OIgC
    APITAL_LETTER_P_WITH_HOOKgSMALL_LETTER_P_WITH_HOOKgLETTER_YRgCAPITAL_LETTER_TONE_TWOgSMALL_LET
    TER_TONE_TWOgCAPITAL_LETTER_ESHgLETTER_REVERSED_ESH_LOOPgSMALL_LETTER_T_WITH_PALATAL_HOOKgCAPI
    TAL_LETTER_T_WITH_HOOKgSMALL_LETTER_T_WITH_HOOKgCAPITAL_LETTER_T_WITH_RETROFLEX_HOOKvU_WITH_HO
    RNgSMALL_LETTER_U_WITH_HORNgCAPITAL_LETTER_UPSILONvV_WITH_HOOKvY_WITH_HOOKgSMALL_LETTER_Y_WITH
    _HOOKgCAPITAL_LETTER_Z_WITH_STROKEgSMALL_LETTER_Z_WITH_STROKEgCAPITAL_LETTER_EZHy_REVERSEDgSMA
    LL_LETTER_EZH_REVERSEDxWITH_TAILgLETTER_TWO_WITH_STROKEgCAPITAL_LETTER_TONE_FIVEgSMALL_LETTER_
    TONE_FIVEgLETTER_INVERTED_GLOTTAL_STOP_WITH_STROKEnWYNNnDENTAL_CLICKnLATERAL_CLICKnALVEOLAR_CL
    ICKnRETROFLEX_CLICKgCAPITAL_LETTER_DZ_WITH_CARONw_WITH_SMALL_LETTER_Z_WITH_CARONgSMALL_LETTER_
    DZ_WITH_CARONgCAPITAL_LETTER_LJw_WITH_SMALL_LETTER_JgSMALL_LETTER_LJgCAPITAL_LETTER_NJw_WITH_S
    MALL_LETTER_JgSMALL_LETTER_NJgCAPITAL_LETTER_A_WITH_CARONgSMALL_LETTER_A_WITH_CARONgCAPITAL_LE
    TTER_I_WITH_CARONgSMALL_LETTER_I_WITH_CARONgCAPITAL_LETTER_O_WITH_CARONgSMALL_LETTER_O_WITH_CA
    RONgCAPITAL_LETTER_U_WITH_CARONgSMALL_LETTER_U_WITH_CARONgCAPITAL_LETTER_U_WITH_DIAERESIS_AND_
    MACRONgSMALL_LETTER_U_WITH_DIAERESIS_AND_MACRONgCAPITAL_LETTER_U_WITH_DIAERESIS_AND_ACUTEgSMAL
    L_LETTER_U_WITH_DIAERESIS_AND_ACUTEgCAPITAL_LETTER_U_WITH_DIAERESIS_AND_CARONgSMALL_LETTER_U_W
    ITH_DIAERESIS_AND_CARONgCAPITAL_LETTER_U_WITH_DIAERESIS_AND_GRAVEgSMALL_LETTER_U_WITH_DIAERESI
    S_AND_GRAVEtTURNED_EgCAPITAL_LETTER_A_WITH_DIAERESIS_AND_MACRONgSMALL_LETTER_A_WITH_DIAERESIS_
    AND_MACRONgCAPITAL_LETTER_A_WITH_DOT_ABOVE_AND_MACRONgSMALL_LETTER_A_WITH_DOT_ABOVE_AND_MACRON
    gCAPITAL_LETTER_AE_WITH_MACRONgSMALL_LETTER_AE_WITH_MACRONgCAPITAL_LETTER_G_WITH_STROKEgSMALL_
    LETTER_G_WITH_STROKEgCAPITAL_LETTER_G_WITH_CARONgSMALL_LETTER_G_WITH_CARONgCAPITAL_LETTER_K_WI
    TH_CARONgSMALL_LETTER_K_WITH_CARONgCAPITAL_LETTER_O_WITH_OGONEKgSMALL_LETTER_O_WITH_OGONEKgCAP
    ITAL_LETTER_O_WITH_OGONEK_AND_MACRONgSMALL_LETTER_O_WITH_OGONEK_AND_MACRONgCAPITAL_LETTER_EZH_
    WITH_CARONgSMALL_LETTER_EZH_WITH_CARONtJ_WITH_CARONgCAPITAL_LETTER_DZw_WITH_SMALL_LETTER_ZgSMA
    LL_LETTER_DZgCAPITAL_LETTER_G_WITH_ACUTEgSMALL_LETTER_G_WITH_ACUTEgCAPITAL_LETTER_HWAIRvWYNNvN
    _WITH_GRAVEgSMALL_LETTER_N_WITH_GRAVEgCAPITAL_LETTER_A_WITH_RING_ABOVE_AND_ACUTEgSMALL_LETTER_
    A_WITH_RING_ABOVE_AND_ACUTEgCAPITAL_LETTER_AE_WITH_ACUTEgSMALL_LETTER_AE_WITH_ACUTEgCAPITAL_LE
    TTER_O_WITH_STROKE_AND_ACUTEgSMALL_LETTER_O_WITH_STROKE_AND_ACUTEgCAPITAL_LETTER_A_WITH_DOUBLE
    _GRAVEgSMALL_LETTER_A_WITH_DOUBLE_GRAVEgCAPITAL_LETTER_A_WITH_INVERTED_BREVEgSMALL_LETTER_A_WI
    TH_INVERTED_BREVEgCAPITAL_LETTER_E_WITH_DOUBLE_GRAVEgSMALL_LETTER_E_WITH_DOUBLE_GRAVEgCAPITAL_
    LETTER_E_WITH_INVERTED_BREVEgSMALL_LETTER_E_WITH_INVERTED_BREVEgCAPITAL_LETTER_I_WITH_DOUBLE_G
    RAVEgSMALL_LETTER_I_WITH_DOUBLE_GRAVEgCAPITAL_LETTER_I_WITH_INVERTED_BREVEgSMALL_LETTER_I_WITH
    _INVERTED_BREVEgCAPITAL_LETTER_O_WITH_DOUBLE_GRAVEgSMALL_LETTER_O_WITH_DOUBLE_GRAVEgCAPITAL_LE
    TTER_O_WITH_INVERTED_BREVEgSMALL_LETTER_O_WITH_INVERTED_BREVEgCAPITAL_LETTER_R_WITH_DOUBLE_GRA
    VEgSMALL_LETTER_R_WITH_DOUBLE_GRAVEgCAPITAL_LETTER_R_WITH_INVERTED_BREVEgSMALL_LETTER_R_WITH_I
    NVERTED_BREVEgCAPITAL_LETTER_U_WITH_DOUBLE_GRAVEgSMALL_LETTER_U_WITH_DOUBLE_GRAVEgCAPITAL_LETT
    ER_U_WITH_INVERTED_BREVEgSMALL_LETTER_U_WITH_INVERTED_BREVEgCAPITAL_LETTER_S_WITH_COMMA_BELOWg
    SMALL_LETTER_S_WITH_COMMA_BELOWgCAPITAL_LETTER_T_WITH_COMMA_BELOWgSMALL_LETTER_T_WITH_COMMA_BE
    LOWgCAPITAL_LETTER_YOGHgSMALL_LETTER_YOGHgCAPITAL_LETTER_H_WITH_CARONgSMALL_LETTER_H_WITH_CARO
    NgCAPITAL_LETTER_N_WITH_LONG_RIGHT_LEGgSMALL_LETTER_D_WITH_CURLgCAPITAL_LETTER_OUgSMALL_LETTER
    _OUgCAPITAL_LETTER_Z_WITH_HOOKgSMALL_LETTER_Z_WITH_HOOKgCAPITAL_LETTER_A_WITH_DOT_ABOVEgSMALL_
    LETTER_A_WITH_DOT_ABOVEgCAPITAL_LETTER_E_WITH_CEDILLAgSMALL_LETTER_E_WITH_CEDILLAgCAPITAL_LETT
    ER_O_WITH_DIAERESIS_AND_MACRONgSMALL_LETTER_O_WITH_DIAERESIS_AND_MACRONgCAPITAL_LETTER_O_WITH_
    TILDE_AND_MACRONgSMALL_LETTER_O_WITH_TILDE_AND_MACRONgCAPITAL_LETTER_O_WITH_DOT_ABOVEgSMALL_LE
    TTER_O_WITH_DOT_ABOVEgCAPITAL_LETTER_O_WITH_DOT_ABOVE_AND_MACRONgSMALL_LETTER_O_WITH_DOT_ABOVE
    _AND_MACRONgCAPITAL_LETTER_Y_WITH_MACRONgSMALL_LETTER_Y_WITH_MACRONtL_WITH_CURLtN_WITH_CURLtT_
    WITH_CURLtDOTLESS_JuB_DIGRAPHtQP_DIGRAPHgCAPITAL_LETTER_A_WITH_STROKEvC_WITH_STROKEgSMALL_LETT
    ER_C_WITH_STROKEgCAPITAL_LETTER_L_WITH_BARvT_WITH_DIAGONAL_STROKEgSMALL_LETTER_S_WITH_SWASH_TA
    ILtZ_WITH_SWASH_TAILgCAPITAL_LETTER_GLOTTAL_STOPgSMALL_LETTER_GLOTTAL_STOPgCAPITAL_LETTER_B_WI
    TH_STROKEvU_BARvTURNED_VvE_WITH_STROKEgSMALL_LETTER_E_WITH_STROKEgCAPITAL_LETTER_J_WITH_STROKE
    gSMALL_LETTER_J_WITH_STROKEgCAPITAL_LETTER_SMALL_Q_WITH_HOOK_TAILgSMALL_LETTER_Q_WITH_HOOK_TAI
    LgCAPITAL_LETTER_R_WITH_STROKEgSMALL_LETTER_R_WITH_STROKEgCAPITAL_LETTER_Y_WITH_STROKEgSMALL_L
    ETTER_Y_WITH_STROKEtTURNED_AtALPHAtTURNED_ALPHAtB_WITH_HOOKtOPEN_OtC_WITH_CURLtD_WITH_TAILzbHO
    OKtREVERSED_EtSCHWAy_WITH_HOOKtOPEN_EtREVERSED_OPEN_Ezj_WITH_HOOKtCLOSED_REVERSED_OPEN_EtDOTLE
    SS_J_WITH_STROKEtG_WITH_HOOKtSCRIPT_GgLETTER_SMALL_CAPITAL_GgSMALL_LETTER_GAMMAtRAMS_HORNtTURN
    ED_HtH_WITH_HOOKuENG_WITH_HOOKtI_WITH_STROKEuOTAgLETTER_SMALL_CAPITAL_IgSMALL_LETTER_L_WITH_MI
    DDLE_TILDEzbBELTzbRETROFLEX_HOOKuEZHtTURNED_Mzc_WITH_LONG_LEGtM_WITH_HOOKtN_WITH_LEFT_HOOKzbRE
    TROFLEX_HOOKgLETTER_SMALL_CAPITAL_NgSMALL_LETTER_BARRED_OgLETTER_SMALL_CAPITAL_OEgSMALL_LETTER
    _CLOSED_OMEGAtPHItTURNED_Rzc_WITH_LONG_LEGziHOOKtR_WITH_LONG_LEGzbTAILzbFISHHOOKuEVERSED_R_WIT
    H_FISHHOOKgLETTER_SMALL_CAPITAL_RzcINVERTED_RgSMALL_LETTER_S_WITH_HOOKtESHtDOTLESS_J_WITH_STRO
    KE_AND_HOOKtSQUAT_REVERSED_ESHtESH_WITH_CURLtTURNED_Tu_WITH_RETROFLEX_HOOKtU_BARuPSILONtV_WITH
    _HOOKtTURNED_VzbWzbYgLETTER_SMALL_CAPITAL_YgSMALL_LETTER_Z_WITH_RETROFLEX_HOOKzbCURLtEZHw_WITH
    _CURLgLETTER_GLOTTAL_STOPnPHARYNGEAL_VOICED_FRICATIVEnINVERTED_GLOTTAL_STOPnSTRETCHED_CnBILABI
    AL_CLICKnSMALL_CAPITAL_BgSMALL_LETTER_CLOSED_OPEN_EgLETTER_SMALL_CAPITAL_G_WITH_HOOKzcHgSMALL_
    LETTER_J_WITH_CROSSED-TAILtTURNED_KgLETTER_SMALL_CAPITAL_LgSMALL_LETTER_Q_WITH_HOOKgLETTER_GLO
    TTAL_STOP_WITH_STROKEnREVERSED_GLOTTAL_STOP_WITH_STROKEgSMALL_LETTER_DZ_DIGRAPHuEZH_DIGRAPHuZ_
    DIGRAPH_WITH_CURLtTS_DIGRAPHuESH_DIGRAPHuC_DIGRAPH_WITH_CURLtFENG_DIGRAPHtLS_DIGRAPHuZ_DIGRAPH
    gLETTER_BILABIAL_PERCUSSIVEpDENTAL_PERCUSSIVEgSMALL_LETTER_TURNED_H_WITH_FISHHOOKzq_AND_TAILaM
    ODIFIER_LETTER_SMALL_Hx_WITH_HOOKwJwRwTURNED_Rzf_WITH_HOOKwCAPITAL_INVERTED_RwWwYqPRIMEqDOUBLE
    _PRIMEqTURNED_COMMAqAPOSTROPHEqREVERSED_COMMArIGHT_HALF_RINGqLEFT_HALF_RINGqGLOTTAL_STOPqREVER
    SED_GLOTTAL_STOPqLEFT_ARROWHEADqRIGHT_ARROWHEADqUP_ARROWHEADqDOWN_ARROWHEADqCIRCUMFLEX_ACCENTa
    CARONaMODIFIER_LETTER_VERTICAL_LINEqMACRONqACUTE_ACCENTqGRAVE_ACCENTqLOW_VERTICAL_LINEuMACRONu
    GRAVE_ACCENTuACUTE_ACCENTqTRIANGULAR_COLONqHALF_TRIANGULAR_COLONqCENTRED_RIGHT_HALF_RINGyLEFT_
    HALF_RINGqUP_TACKqDOWN_TACKqPLUS_SIGNqMINUS_SIGNaBREVEaDOT_ABOVEaRING_ABOVEaOGONEKaSMALL_TILDE
    aDOUBLE_ACUTE_ACCENTaMODIFIER_LETTER_RHOTIC_HOOKqCROSS_ACCENTqSMALL_GAMMAwLwSwXwREVERSED_GLOTT
    AL_STOPqEXTRA-HIGH_TONE_BARqHIGH_TONE_BARqMID_TONE_BARqLOW_TONE_BARqEXTRA-LOW_TONE_BARqYIN_DEP
    ARTING_TONE_MARKrANG_DEPARTING_TONE_MARKqVOICINGqUNASPIRATEDqDOUBLE_APOSTROPHEqLOW_DOWN_ARROWH
    EADuUP_ARROWHEADuLEFT_ARROWHEADuRIGHT_ARROWHEADwNGqMIDDLE_GRAVE_ACCENTxDOUBLE_GRAVE_ACCENTzfAC
    UTE_ACCENTqLOW_TILDEqRAISED_COLONqBEGIN_HIGH_TONEqEND_HIGH_TONEqBEGIN_LOW_TONEqEND_LOW_TONEqSH
    ELFqOPEN_SHELFqLOW_LEFT_ARROWaCOMBINING_GRAVE_ACCENTkACUTE_ACCENTkCIRCUMFLEX_ACCENTkTILDEkMACR
    ONkOVERLINEkBREVEkDOT_ABOVElIAERESISkHOOK_ABOVEkRING_ABOVEkDOUBLE_ACUTE_ACCENTkCARONkVERTICAL_
    LINE_ABOVEkDOUBLE_VERTICAL_LINE_ABOVErGRAVE_ACCENTkCANDRABINDUkINVERTED_BREVEkTURNED_COMMA_ABO
    VEkCOMMA_ABOVEkREVERSED_COMMA_ABOVEkCOMMA_ABOVE_RIGHTkGRAVE_ACCENT_BELOWkACUTE_ACCENT_BELOWkLE
    FT_TACK_BELOWkRIGHT_TACK_BELOWkLEFT_ANGLE_ABOVEkHORNkLEFT_HALF_RING_BELOWkUP_TACK_BELOWkDOWN_T
    ACK_BELOWkPLUS_SIGN_BELOWkMINUS_SIGN_BELOWkPALATALIZED_HOOK_BELOWkRETROFLEX_HOOK_BELOWkDOT_BEL
    OWlIAERESIS_BELOWkRING_BELOWkCOMMA_BELOWlEDILLAkOGONEKkVERTICAL_LINE_BELOWkBRIDGE_BELOWkINVERT
    ED_DOUBLE_ARCH_BELOWkCARON_BELOWlIRCUMFLEX_ACCENT_BELOWkBREVE_BELOWkINVERTED_BREVE_BELOWkTILDE
    _BELOWkMACRON_BELOWkLOW_LINEkDOUBLE_LOW_LINEkTILDE_OVERLAYkSHORT_STROKE_OVERLAYkLONG_STROKE_OV
    ERLAYkSHORT_SOLIDUS_OVERLAYkLONG_SOLIDUS_OVERLAYkRIGHT_HALF_RING_BELOWkINVERTED_BRIDGE_BELOWkS
    QUARE_BELOWlEAGULL_BELOWkX_ABOVEkVERTICAL_TILDEkDOUBLE_OVERLINEkGRAVE_TONE_MARKkACUTE_TONE_MAR
    KkGREEK_PERISPOMENIqKORONISqDIALYTIKA_TONOSqYPOGEGRAMMENIkBRIDGE_ABOVEkEQUALS_SIGN_BELOWkDOUBL
    E_VERTICAL_LINE_BELOWkLEFT_ANGLE_BELOWkNOT_TILDE_ABOVEkHOMOTHETIC_ABOVEkALMOST_EQUAL_TO_ABOVEk
    LEFT_RIGHT_ARROW_BELOWkUPWARDS_ARROW_BELOWkGRAPHEME_JOINERkRIGHT_ARROWHEAD_ABOVEkLEFT_HALF_RIN
    G_ABOVEkFERMATAkX_BELOWkLEFT_ARROWHEAD_BELOWkRIGHT_ARROWHEAD_BELOWzbAND_UP_ARROWHEAD_BELOWqHAL
    F_RING_ABOVEkDOT_ABOVE_RIGHTkASTERISK_BELOWkDOUBLE_RING_BELOWkZIGZAG_ABOVEkDOUBLE_BREVE_BELOWv
    ErMACRONx_BELOWrTILDErINVERTED_BREVErRIGHTWARDS_ARROW_BELOWkLATIN_SMALL_LETTER_AzeEzeIzeOzeUze
    CzeDzeHzeMzeRzeTzeVzeXaGREEK_CAPITAL_LETTER_HETAgSMALL_LETTER_HETAgCAPITAL_LETTER_ARCHAIC_SAMP
    IgSMALL_LETTER_ARCHAIC_SAMPIgNUMERAL_SIGNgLOWER_NUMERAL_SIGNgCAPITAL_LETTER_PAMPHYLIAN_DIGAMMA
    gSMALL_LETTER_PAMPHYLIAN_DIGAMMA=37AgYPOGEGRAMMENIgSMALL_REVERSED_LUNATE_SIGMA_SYMBOLmDOTTED_L
    UNATE_SIGMA_SYMBOLmREVERSED_DOTTED_LUNATE_SIGMA_SYMBOLgQUESTION_MARKgCAPITAL_LETTER_YOT=384gTO
    NOSgDIALYTIKA_TONOSgCAPITAL_LETTER_ALPHA_WITH_TONOSgANO_TELEIAgCAPITAL_LETTER_EPSILON_WITH_TON
    OSwTA_WITH_TONOSvIOTA_WITH_TONOS=38CvOMICRON_WITH_TONOS=38EvUPSILON_WITH_TONOSvOMEGA_WITH_TONO
    SgSMALL_LETTER_IOTA_WITH_DIALYTIKA_AND_TONOSgCAPITAL_LETTER_ALPHAvBETAvGAMMAvDELTAvEPSILONvZET
    AvETAvTHETAvIOTAvKAPPAvLAMDAvMUvNUvXIvOMICRONvPIvRHO=3A3vSIGMAvTAUvUPSILONvPHIvCHIvPSIvOMEGAvI
    OTA_WITH_DIALYTIKAvUPSILON_WITH_DIALYTIKAgSMALL_LETTER_ALPHA_WITH_TONOStEPSILON_WITH_TONOSuTA_
    WITH_TONOStIOTA_WITH_TONOStUPSILON_WITH_DIALYTIKA_AND_TONOStALPHAtBETAtGAMMAtDELTAtEPSILONtZET
    AtETAtTHETAtIOTAtKAPPAtLAMDAtMUtNUtXItOMICRONtPItRHOtFINAL_SIGMAtSIGMAtTAUtUPSILONtPHItCHItPSI
    tOMEGAtIOTA_WITH_DIALYTIKAtUPSILON_WITH_DIALYTIKAtOMICRON_WITH_TONOStUPSILON_WITH_TONOStOMEGA_
    WITH_TONOSgCAPITAL_KAI_SYMBOLgBETA_SYMBOLgTHETA_SYMBOLgUPSILON_WITH_HOOK_SYMBOLtACUTE_AND_HOOK
    _SYMBOLtDIAERESIS_AND_HOOK_SYMBOLgPHI_SYMBOLhI_SYMBOLgKAI_SYMBOLgLETTER_ARCHAIC_KOPPAgSMALL_LE
    TTER_ARCHAIC_KOPPAgLETTER_STIGMAgSMALL_LETTER_STIGMAgLETTER_DIGAMMAgSMALL_LETTER_DIGAMMAgLETTE
    R_KOPPAgSMALL_LETTER_KOPPAgLETTER_SAMPIgSMALL_LETTER_SAMPIaCOPTIC_CAPITAL_LETTER_SHEIhSMALL_LE
    TTER_SHEIhCAPITAL_LETTER_FEIhSMALL_LETTER_FEIhCAPITAL_LETTER_KHEIhSMALL_LETTER_KHEIhCAPITAL_LE
    TTER_HORIhSMALL_LETTER_HORIhCAPITAL_LETTER_GANGIAhSMALL_LETTER_GANGIAhCAPITAL_LETTER_SHIMAhSMA
    LL_LETTER_SHIMAhCAPITAL_LETTER_DEIhSMALL_LETTER_DEIaGREEK_KAPPA_SYMBOLgRHO_SYMBOLgLUNATE_SIGMA
    _SYMBOLhETTER_YOTgCAPITAL_THETA_SYMBOLgLUNATE_EPSILON_SYMBOLgREVERSED_LUNATE_EPSILON_SYMBOLgCA
    PITAL_LETTER_SHOgSMALL_LETTER_SHOgCAPITAL_LUNATE_SIGMA_SYMBOLpETTER_SANgSMALL_LETTER_SANgRHO_W
    ITH_STROKE_SYMBOLgCAPITAL_REVERSED_LUNATE_SIGMA_SYMBOLoDOTTED_LUNATE_SIGMA_SYMBOLoREVERSED_DOT
    TED_LUNATE_SIGMA_SYMBOLaCYRILLIC_CAPITAL_LETTER_IE_WITH_GRAVEzOyDJEyGJEyUKRAINIAN_IEyDZEyBYELO
    RUSSIAN-UKRAINIAN_IyYIyJEyLJEyNJEyTSHEyKJEyI_WITH_GRAVEySHORT_UyDZHEyAyBEyVEyGHEyDEyIEyZHEzEyI
    ySHORT_IyKAyELzMzNyOyPEyERzSyTEyUyEFyHAyTSEyCHEySHAzbCHAyHARD_SIGNyYERUySOFT_SIGNyEyYUzAjSMALL
    _LETTER_AwBEwVEwGHEwDEwIEwZHExEwIwSHORT_IwKAwELxMxNwOwPEwERxSwTEwUwEFwHAwTSEwCHEwSHAyCHAwHARD_
    SIGNwYERUwSOFT_SIGNwEwYUxAwIE_WITH_GRAVExOwDJEwGJEwUKRAINIAN_IEwDZEwBYELORUSSIAN-UKRAINIAN_IwY
    IwJEwLJEwNJEwTSHEwKJEwI_WITH_GRAVEwSHORT_UwDZHEjCAPITAL_LETTER_OMEGAjSMALL_LETTER_OMEGAjCAPITA
    L_LETTER_YATjSMALL_LETTER_YATjCAPITAL_LETTER_IOTIFIED_EjSMALL_LETTER_IOTIFIED_EjCAPITAL_LETTER
    _LITTLE_YUSjSMALL_LETTER_LITTLE_YUSjCAPITAL_LETTER_IOTIFIED_LITTLE_YUSjSMALL_LETTER_IOTIFIED_L
    ITTLE_YUSjCAPITAL_LETTER_BIG_YUSjSMALL_LETTER_BIG_YUSjCAPITAL_LETTER_IOTIFIED_BIG_YUSjSMALL_LE
    TTER_IOTIFIED_BIG_YUSjCAPITAL_LETTER_KSIjSMALL_LETTER_KSIjCAPITAL_LETTER_PSIjSMALL_LETTER_PSIj
    CAPITAL_LETTER_FITAjSMALL_LETTER_FITAjCAPITAL_LETTER_IZHITSAjSMALL_LETTER_IZHITSAjCAPITAL_LETT
    ER_IZHITSA_WITH_DOUBLE_GRAVE_ACCENTjSMALL_LETTER_IZHITSA_WITH_DOUBLE_GRAVE_ACCENTjCAPITAL_LETT
    ER_UKjSMALL_LETTER_UKjCAPITAL_LETTER_ROUND_OMEGAjSMALL_LETTER_ROUND_OMEGAjCAPITAL_LETTER_OMEGA
    _WITH_TITLOjSMALL_LETTER_OMEGA_WITH_TITLOjCAPITAL_LETTER_OTjSMALL_LETTER_OTjCAPITAL_LETTER_KOP
    PAjSMALL_LETTER_KOPPAjTHOUSANDS_SIGNbOMBINING_CYRILLIC_TITLOtPALATALIZATIONtDASIA_PNEUMATAtPSI
    LI_PNEUMATAuOKRYTIEtHUNDRED_THOUSANDS_SIGNtMILLIONS_SIGNbYRILLIC_CAPITAL_LETTER_SHORT_I_WITH_T
    AILjSMALL_LETTER_SHORT_I_WITH_TAILjCAPITAL_LETTER_SEMISOFT_SIGNjSMALL_LETTER_SEMISOFT_SIGNjCAP
    ITAL_LETTER_ER_WITH_TICKjSMALL_LETTER_ER_WITH_TICKjCAPITAL_LETTER_GHE_WITH_UPTURNjSMALL_LETTER
    _GHE_WITH_UPTURNjCAPITAL_LETTER_GHE_WITH_STROKEjSMALL_LETTER_GHE_WITH_STROKEjCAPITAL_LETTER_GH
    E_WITH_MIDDLE_HOOKjSMALL_LETTER_GHE_WITH_MIDDLE_HOOKjCAPITAL_LETTER_ZHE_WITH_DESCENDERjSMALL_L
    ETTER_ZHE_WITH_DESCENDERjCAPITAL_LETTER_ZE_WITH_DESCENDERjSMALL_LETTER_ZE_WITH_DESCENDERjCAPIT
    AL_LETTER_KA_WITH_DESCENDERjSMALL_LETTER_KA_WITH_DESCENDERjCAPITAL_LETTER_KA_WITH_VERTICAL_STR
    OKEjSMALL_LETTER_KA_WITH_VERTICAL_STROKEjCAPITAL_LETTER_KA_WITH_STROKEjSMALL_LETTER_KA_WITH_ST
    ROKEjCAPITAL_LETTER_BASHKIR_KAjSMALL_LETTER_BASHKIR_KAjCAPITAL_LETTER_EN_WITH_DESCENDERjSMALL_
    LETTER_EN_WITH_DESCENDERjCAPITAL_LIGATURE_EN_GHEjSMALL_LIGATURE_EN_GHEjCAPITAL_LETTER_PE_WITH_
    MIDDLE_HOOKjSMALL_LETTER_PE_WITH_MIDDLE_HOOKjCAPITAL_LETTER_ABKHASIAN_HAjSMALL_LETTER_ABKHASIA
    N_HAjCAPITAL_LETTER_ES_WITH_DESCENDERjSMALL_LETTER_ES_WITH_DESCENDERjCAPITAL_LETTER_TE_WITH_DE
    SCENDERjSMALL_LETTER_TE_WITH_DESCENDERjCAPITAL_LETTER_STRAIGHT_UjSMALL_LETTER_STRAIGHT_UjCAPIT
    AL_LETTER_STRAIGHT_U_WITH_STROKEjSMALL_LETTER_STRAIGHT_U_WITH_STROKEjCAPITAL_LETTER_HA_WITH_DE
    SCENDERjSMALL_LETTER_HA_WITH_DESCENDERjCAPITAL_LIGATURE_TE_TSEjSMALL_LIGATURE_TE_TSEjCAPITAL_L
    ETTER_CHE_WITH_DESCENDERjSMALL_LETTER_CHE_WITH_DESCENDERjCAPITAL_LETTER_CHE_WITH_VERTICAL_STRO
    KEjSMALL_LETTER_CHE_WITH_VERTICAL_STROKEjCAPITAL_LETTER_SHHAjSMALL_LETTER_SHHAjCAPITAL_LETTER_
    ABKHASIAN_CHEjSMALL_LETTER_ABKHASIAN_CHEjCAPITAL_LETTER_ABKHASIAN_CHE_WITH_DESCENDERjSMALL_LET
    TER_ABKHASIAN_CHE_WITH_DESCENDERjLETTER_PALOCHKAjCAPITAL_LETTER_ZHE_WITH_BREVEjSMALL_LETTER_ZH
    E_WITH_BREVEjCAPITAL_LETTER_KA_WITH_HOOKjSMALL_LETTER_KA_WITH_HOOKjCAPITAL_LETTER_EL_WITH_TAIL
    jSMALL_LETTER_EL_WITH_TAILjCAPITAL_LETTER_EN_WITH_HOOKjSMALL_LETTER_EN_WITH_HOOKjCAPITAL_LETTE
    R_EN_WITH_TAILjSMALL_LETTER_EN_WITH_TAILjCAPITAL_LETTER_KHAKASSIAN_CHEjSMALL_LETTER_KHAKASSIAN
    _CHEjCAPITAL_LETTER_EM_WITH_TAILjSMALL_LETTER_EM_WITH_TAILwPALOCHKAjCAPITAL_LETTER_A_WITH_BREV
    EjSMALL_LETTER_A_WITH_BREVEjCAPITAL_LETTER_A_WITH_DIAERESISjSMALL_LETTER_A_WITH_DIAERESISjCAPI
    TAL_LIGATURE_A_IEjSMALL_LIGATURE_A_IEjCAPITAL_LETTER_IE_WITH_BREVEjSMALL_LETTER_IE_WITH_BREVEj
    CAPITAL_LETTER_SCHWAjSMALL_LETTER_SCHWAjCAPITAL_LETTER_SCHWA_WITH_DIAERESISjSMALL_LETTER_SCHWA
    _WITH_DIAERESISjCAPITAL_LETTER_ZHE_WITH_DIAERESISjSMALL_LETTER_ZHE_WITH_DIAERESISjCAPITAL_LETT
    ER_ZE_WITH_DIAERESISjSMALL_LETTER_ZE_WITH_DIAERESISjCAPITAL_LETTER_ABKHASIAN_DZEjSMALL_LETTER_
    ABKHASIAN_DZEjCAPITAL_LETTER_I_WITH_MACRONjSMALL_LETTER_I_WITH_MACRONjCAPITAL_LETTER_I_WITH_DI
    AERESISjSMALL_LETTER_I_WITH_DIAERESISjCAPITAL_LETTER_O_WITH_DIAERESISjSMALL_LETTER_O_WITH_DIAE
    RESISjCAPITAL_LETTER_BARRED_OjSMALL_LETTER_BARRED_OjCAPITAL_LETTER_BARRED_O_WITH_DIAERESISjSMA
    LL_LETTER_BARRED_O_WITH_DIAERESISjCAPITAL_LETTER_E_WITH_DIAERESISjSMALL_LETTER_E_WITH_DIAERESI
    SjCAPITAL_LETTER_U_WITH_MACRONjSMALL_LETTER_U_WITH_MACRONjCAPITAL_LETTER_U_WITH_DIAERESISjSMAL
    L_LETTER_U_WITH_DIAERESISjCAPITAL_LETTER_U_WITH_DOUBLE_ACUTEjSMALL_LETTER_U_WITH_DOUBLE_ACUTEj
    CAPITAL_LETTER_CHE_WITH_DIAERESISjSMALL_LETTER_CHE_WITH_DIAERESISjCAPITAL_LETTER_GHE_WITH_DESC
    ENDERjSMALL_LETTER_GHE_WITH_DESCENDERjCAPITAL_LETTER_YERU_WITH_DIAERESISjSMALL_LETTER_YERU_WIT
    H_DIAERESISjCAPITAL_LETTER_GHE_WITH_STROKE_AND_HOOKjSMALL_LETTER_GHE_WITH_STROKE_AND_HOOKjCAPI
    TAL_LETTER_HA_WITH_HOOKjSMALL_LETTER_HA_WITH_HOOKjCAPITAL_LETTER_HA_WITH_STROKEjSMALL_LETTER_H
    A_WITH_STROKEjCAPITAL_LETTER_KOMI_DEjSMALL_LETTER_KOMI_DEjCAPITAL_LETTER_KOMI_DJEjSMALL_LETTER
    _KOMI_DJEjCAPITAL_LETTER_KOMI_ZJEjSMALL_LETTER_KOMI_ZJEjCAPITAL_LETTER_KOMI_DZJEjSMALL_LETTER_
    KOMI_DZJEjCAPITAL_LETTER_KOMI_LJEjSMALL_LETTER_KOMI_LJEjCAPITAL_LETTER_KOMI_NJEjSMALL_LETTER_K
    OMI_NJEjCAPITAL_LETTER_KOMI_SJEjSMALL_LETTER_KOMI_SJEjCAPITAL_LETTER_KOMI_TJEjSMALL_LETTER_KOM
    I_TJEjCAPITAL_LETTER_REVERSED_ZEjSMALL_LETTER_REVERSED_ZEjCAPITAL_LETTER_EL_WITH_HOOKjSMALL_LE
    TTER_EL_WITH_HOOKjCAPITAL_LETTER_LHAjSMALL_LETTER_LHAjCAPITAL_LETTER_RHAjSMALL_LETTER_RHAjCAPI
    TAL_LETTER_YAEjSMALL_LETTER_YAEjCAPITAL_LETTER_QAjSMALL_LETTER_QAjCAPITAL_LETTER_WEjSMALL_LETT
    ER_WEjCAPITAL_LETTER_ALEUT_KAjSMALL_LETTER_ALEUT_KAjCAPITAL_LETTER_EL_WITH_MIDDLE_HOOKjSMALL_L
    ETTER_EL_WITH_MIDDLE_HOOKjCAPITAL_LETTER_EN_WITH_MIDDLE_HOOKjSMALL_LETTER_EN_WITH_MIDDLE_HOOKj
    CAPITAL_LETTER_PE_WITH_DESCENDERjSMALL_LETTER_PE_WITH_DESCENDERjCAPITAL_LETTER_SHHA_WITH_DESCE
    NDERjSMALL_LETTER_SHHA_WITH_DESCENDERjCAPITAL_LETTER_EN_WITH_LEFT_HOOKjSMALL_LETTER_EN_WITH_LE
    FT_HOOKjCAPITAL_LETTER_DZZHEjSMALL_LETTER_DZZHEjCAPITAL_LETTER_DCHEjSMALL_LETTER_DCHEjCAPITAL_
    LETTER_EL_WITH_DESCENDERjSMALL_LETTER_EL_WITH_DESCENDER=531aARMENIAN_CAPITAL_LETTER_AYByBENyGI
    MyDAyECHyZAyEHzTyTOyZHEyINIyLIWNyXEHyCAyKENyHOyJAyGHADyCHEHyMENyYIyNOWySHAyVOyCHAyPEHyJHEHyRAy
    SEHyVEWyTIWNyREHyCOyYIWNyPIWRyKEHyOHyFEH=559jMODIFIER_LETTER_LEFT_HALF_RINGjAPOSTROPHEjEMPHASI
    S_MARKkXCLAMATION_MARKjCOMMAjQUESTION_MARKjABBREVIATION_MARKjSMALL_LETTER_TURNED_AYBwAYBwBENwG
    IMwDAwECHwZAwEHxTwTOwZHEwINIwLIWNwXEHwCAwKENwHOwJAwGHADwCHEHwMENwYIwNOWwSHAwVOwCHAwPEHwJHEHwRA
    wSEHwVEWwTIWNwREHwCOwYIWNwPIWRwKEHwOHwFEHqIGATURE_ECH_YIWNqETTER_YI_WITH_STROKEjFULL_STOPjHYPH
    EN=58DaRIGHT-FACING_ARMENIAN_ETERNITY_SIGNaLEFT-FACING_ARMENIAN_ETERNITY_SIGNaARMENIAN_DRAM_SI
    GN=591aHEBREW_ACCENT_ETNAHTAoSEGOLpHALSHELEToZAQEF_QATANuGADOLoTIPEHAoREVIAoZARQAoPASHTAoYETIV
    oTEVIRoGERESHu_MUQDAMrSHAYIMoQARNEY_PARAoTELISHA_GEDOLAoPAZERoATNAH_HAFUKHoMUNAHpAHAPAKHpERKHA
    u_KEFULAoDARGAoQADMAoTELISHA_QETANAoYERAH_BEN_YOMOoOLEoILUYoDEHIoZINORhMARK_MASORA_CIRCLEhPOIN
    T_SHEVAnHATAF_SEGOLtPATAHtQAMATSoIRIQnTSEREnSEGOLnPATAHnQAMATSnHOLAMs_HASER_FOR_VAVnQUBUTSnDAG
    ESH_OR_MAPIQnMETEGiUNCTUATION_MAQAFiOINT_RAFEiUNCTUATION_PASEQiOINT_SHIN_DOToIN_DOTiUNCTUATION
    _SOF_PASUQhMARK_UPPER_DOTmLOWER_DOThPUNCTUATION_NUN_HAFUKHAiOINT_QAMATS_QATAN=5D0hLETTER_ALEFo
    BEToGIMELoDALEToHEoVAVoZAYINoHEToTEToYODoFINAL_KAFoKAFoLAMEDoFINAL_MEMoMEMoFINAL_NUNoNUNoSAMEK
    HoAYINoFINAL_PEoPEoFINAL_TSADIoTSADIoQOFoRESHoSHINoTAV=5EFhYOD_TRIANGLEhLIGATURE_YIDDISH_DOUBL
    E_VAVyVAV_YODyDOUBLE_YODhPUNCTUATION_GERESHwSHAYIM=600aARABIC_NUMBER_SIGNhSIGN_SANAHhFOOTNOTE_
    MARKERhSIGN_SAFHAoMVAThNUMBER_MARK_ABOVEg-INDIC_CUBE_ROOTnFOURTH_ROOTg_RAYg-INDIC_PER_MILLE_SI
    GNrTEN_THOUSAND_SIGNbFGHANI_SIGNbRABIC_COMMAhDATE_SEPARATORhPOETIC_VERSE_SIGNhSIGN_MISRAmSALLA
    LLAHOU_ALAYHE_WASSALLAMmALAYHE_ASSALLAMmRAHMATULLAH_ALAYHEoDI_ALLAHOU_ANHUmTAKHALLUSiMALL_HIGH
    _TAHsLIGATURE_ALEF_WITH_LAM_WITH_YEHsZAINnFATHAnDAMMAnKASRAiEMICOLONhLETTER_MARKhEND_OF_TEXT_M
    ARKhTRIPLE_DOT_PUNCTUATION_MARKhQUESTION_MARKhLETTER_KASHMIRI_YEHoHAMZAoALEF_WITH_MADDA_ABOVEy
    HAMZA_ABOVEoWAW_WITH_HAMZA_ABOVEoALEF_WITH_HAMZA_BELOWoYEH_WITH_HAMZA_ABOVEoALEFoBEHoTEH_MARBU
    TAqHpHEHoJEEMoHAHoKHAHoDALoTHALoREHoZAINoSEENpHEENpADoDADoTAHoZAHoAINoGHAINoKEHEH_WITH_TWO_DOT
    S_ABOVEzbHREE_DOTS_BELOWoFARSI_YEH_WITH_INVERTED_VzeTWO_DOTS_ABOVEzfHREE_DOTS_ABOVEhTATWEELhLE
    TTER_FEHoQAFoKAFoLAMoMEEMoNOONoHEHoWAWoALEF_MAKSURAoYEHhFATHATANhDAMMATANhKASRATANhFATHAhDAMMA
    hKASRAhSHADDAiUKUNhMADDAH_ABOVEhHAMZA_ABOVEnBELOWhSUBSCRIPT_ALEFhINVERTED_DAMMAhMARK_NOON_GHUN
    NAhZWARAKAYhVOWEL_SIGN_SMALL_V_ABOVEsINVERTED_SMALL_V_ABOVEsDOT_BELOWhREVERSED_DAMMAhFATHA_WIT
    H_TWO_DOTShWAVY_HAMZA_BELOWg-INDIC_DIGIT_ZEROtONEtTWOuHREEtFOURuIVEtSIXuEVENtEIGHTtNINEg_PERCE
    NT_SIGNhDECIMAL_SEPARATORhTHOUSANDS_SEPARATORhFIVE_POINTED_STARhLETTER_DOTLESS_BEHwQAFoSUPERSC
    RIPT_ALEFoALEF_WASLAuITH_WAVY_HAMZA_ABOVEzkBELOWoHIGH_HAMZAy_ALEFzWAWoU_WITH_HAMZA_ABOVEoHIGH_
    HAMZA_YEHoTTEHsEHoBEEHoTEH_WITH_RINGxTHREE_DOTS_ABOVE_DOWNWARDSoPEHoTEHEHoBEHEHoHAH_WITH_HAMZA
    _ABOVExTWO_DOTS_VERTICAL_ABOVEoNYEHoDYEHoHAH_WITH_THREE_DOTS_ABOVEoTCHEHtEHoDDALpAL_WITH_RINGx
    DOT_BELOWzh_AND_SMALL_TAHqHALpDAHALpULpAL_WITH_THREE_DOTS_ABOVE_DOWNWARDSxFOUR_DOTS_ABOVEoRREH
    pEH_WITH_SMALL_VxRINGxDOT_BELOWxSMALL_V_BELOWxDOT_BELOW_AND_DOT_ABOVExTWO_DOTS_ABOVEoJEHoREH_W
    ITH_FOUR_DOTS_ABOVEoSEEN_WITH_DOT_BELOW_AND_DOT_ABOVEyTHREE_DOTS_BELOWzp_AND_THREE_DOTS_ABOVEp
    AD_WITH_TWO_DOTS_BELOWyHREE_DOTS_ABOVEoTAH_WITH_THREE_DOTS_ABOVEoAIN_WITH_THREE_DOTS_ABOVEoDOT
    LESS_FEHoFEH_WITH_DOT_MOVED_BELOWzcBELOWoVEHoFEH_WITH_THREE_DOTS_BELOWoPEHEHoQAF_WITH_DOT_ABOV
    ExTHREE_DOTS_ABOVEoKEHEHoSWASH_KAFoKAF_WITH_RINGxDOT_ABOVEoNGoKAF_WITH_THREE_DOTS_BELOWoGAFr_W
    ITH_RINGoNGOEHoGAF_WITH_TWO_DOTS_BELOWpUEHpAF_WITH_THREE_DOTS_ABOVEoLAM_WITH_SMALL_VxDOT_ABOVE
    xTHREE_DOTS_ABOVEzjBELOWoNOON_WITH_DOT_BELOWtGHUNNAoRNOONoNOON_WITH_RINGyTHREE_DOTS_ABOVEoHEH_
    DOACHASHMEEoTCHEH_WITH_DOT_ABOVEoHEH_WITH_YEH_ABOVEsGOALw_WITH_HAMZA_ABOVEoTEH_MARBUTA_GOALoWA
    W_WITH_RINGoKIRGHIZ_OEoOEoUoYUoKIRGHIZ_YUoWAW_WITH_TWO_DOTS_ABOVEoVEoFARSI_YEHoYEH_WITH_TAILxS
    MALL_VoWAW_WITH_DOT_ABOVEoEoYEH_WITH_THREE_DOTS_BELOWsBARREEy_WITH_HAMZA_ABOVEhFULL_STOPhLETTE
    R_AEhSMALL_HIGH_LIGATURE_SAD_WITH_LAM_WITH_ALEF_MAKSURAzcQAF_WITH_LAM_WITH_ALEF_MAKSURAsMEEM_I
    NITIAL_FORMsLAM_ALEFsJEEMsTHREE_DOTSsSEENhEND_OF_AYAHhSTART_OF_RUB_EL_HIZBiMALL_HIGH_ROUNDED_Z
    EROsUPRIGHT_RECTANGULAR_ZEROsDOTLESS_HEAD_OF_KHAHsMEEM_ISOLATED_FORMnLOW_SEENnHIGH_MADDAnWAWnY
    EHnHIGH_YEHsNOONhPLACE_OF_SAJDAHhEMPTY_CENTRE_LOW_STOPuHIGH_STOPhROUNDED_HIGH_STOP_WITH_FILLED
    _CENTREhSMALL_LOW_MEEMhLETTER_DAL_WITH_INVERTED_VoREH_WITH_INVERTED_VaEXTENDED_ARABIC-INDIC_DI
    GIT_ZEROzdONEzdTWOzeHREEzdFOURzeIVEzdSIXzeEVENzdEIGHTzdNINEaARABIC_LETTER_SHEEN_WITH_DOT_BELOW
    oDAD_WITH_DOT_BELOWoGHAIN_WITH_DOT_BELOWhSIGN_SINDHI_AMPERSANDtPOSTPOSITION_MENhLETTER_HEH_WIT
    H_INVERTED_VaSYRIAC_END_OF_PARAGRAPHhSUPRALINEAR_FULL_STOPjBLINEAR_FULL_STOPjPRALINEAR_COLONjB
    LINEAR_COLONhHORIZONTAL_COLONhCOLON_SKEWED_LEFTuRIGHThSUPRALINEAR_COLON_SKEWED_LEFTjBLINEAR_CO
    LON_SKEWED_RIGHThCONTRACTIONhHARKLEAN_OBELUSqMETOBELUSqASTERISCUS=70FhABBREVIATION_MARKhLETTER
    _ALAPHoSUPERSCRIPT_ALAPHoBETHoGAMALt_GARSHUNIoDALATHpOTLESS_DALATH_RISHoHEoWAWoZAINoHETHoTETHs
    _GARSHUNIoYUDHs_HEoKAPHoLAMADHoMIMoNUNoSEMKATHoFINAL_SEMKATHoEoPEoREVERSED_PEoSADHEoQAPHoRISHo
    SHINoTAWoPERSIAN_BHETHwGHAMALwDHALATHhPTHAHA_ABOVEoBELOWoDOTTEDhZQAPHA_ABOVEoBELOWoDOTTEDhRBAS
    A_ABOVEnBELOWhDOTTED_ZLAMA_HORIZONTALuANGULARhHBASA_ABOVEnBELOWm-ESASA_DOTTEDhESASA_ABOVEnBELO
    WhRWAHAhFEMININE_DOThQUSHSHAYAhRUKKAKHAhTWO_VERTICAL_DOTS_ABOVEzBELOWiHREE_DOTS_ABOVEsBELOWhOB
    LIQUE_LINE_ABOVEuBELOWhMUSIChBARREKH=74DhLETTER_SOGDIAN_ZHAINwKHAPHwFEaARABIC_LETTER_BEH_WITH_
    THREE_DOTS_HORIZONTALLY_BELOWxDOT_BELOW_AND_THREE_DOTS_ABOVExTHREE_DOTS_POINTING_UPWARDS_BELOW
    zzg_AND_TWO_DOTS_ABOVEyWO_DOTS_BELOW_AND_DOT_ABOVExINVERTED_SMALL_V_BELOWxSMALL_VoHAH_WITH_TWO
    _DOTS_ABOVEyHREE_DOTS_POINTING_UPWARDS_BELOWoDAL_WITH_TWO_DOTS_VERTICALLY_BELOW_AND_SMALL_TAHx
    INVERTED_SMALL_V_BELOWoREH_WITH_STROKEoSEEN_WITH_FOUR_DOTS_ABOVEoAIN_WITH_TWO_DOTS_ABOVEyHREE_
    DOTS_POINTING_DOWNWARDS_ABOVEyWO_DOTS_VERTICALLY_ABOVEoFEH_WITH_TWO_DOTS_BELOWyHREE_DOTS_POINT
    ING_UPWARDS_BELOWoKEHEH_WITH_DOT_ABOVEzTHREE_DOTS_ABOVEzlPOINTING_UPWARDS_BELOWoMEEM_WITH_DOT_
    ABOVEzdBELOWoNOON_WITH_TWO_DOTS_BELOWySMALL_TAHzfVoLAM_WITH_BARoREH_WITH_TWO_DOTS_VERTICALLY_A
    BOVExHAMZA_ABOVEoSEEN_WITH_TWO_DOTS_VERTICALLY_ABOVEoHAH_WITH_SMALL_ARABIC_LETTER_TAH_BELOWzwA
    ND_TWO_DOTSoSEEN_WITH_SMALL_ARABIC_LETTER_TAH_AND_TWO_DOTSoREH_WITH_SMALL_ARABIC_LETTER_TAH_AN
    D_TWO_DOTSoHAH_WITH_SMALL_ARABIC_LETTER_TAH_ABOVEoALEF_WITH_EXTENDED_ARABIC-INDIC_DIGIT_TWO_AB
    OVEzzdHREE_ABOVEoFARSI_YEH_WITH_EXTENDED_ARABIC-INDIC_DIGIT_TWO_ABOVEzziHREE_ABOVEzzhFOUR_BELO
    WoWAW_WITH_EXTENDED_ARABIC-INDIC_DIGIT_TWO_ABOVEzzcHREE_ABOVEoYEH_BARREE_WITH_EXTENDED_ARABIC-
    INDIC_DIGIT_TWO_ABOVEzzjHREE_ABOVEoHAH_WITH_EXTENDED_ARABIC-INDIC_DIGIT_FOUR_BELOWoSEEN_WITH_E
    XTENDED_ARABIC-INDIC_DIGIT_FOUR_ABOVEyINVERTED_VoKAF_WITH_TWO_DOTS_ABOVEaTHAANA_LETTER_HAAoSHA
    VIYANIoNOONUoRAAoBAAoLHAVIYANIoKAAFUoALIFUoVAAVUoMEEMUoFAAFUoDHAALUoTHAAoLAAMUoGAAFUpNAVIYANIo
    SEENUoDAVIYANIoZAVIYANIoTAVIYANIoYAAoPAVIYANIoJAVIYANIoCHAVIYANIoTTAAoHHAAoKHAAoTHAALUoZAAoSHE
    ENUpAADHUoDAADHUoTOoZOoAINUoGHAINUoQAAFUoWAAVUhABAFILIiABAAFILIhIBIFILIhEEBEEFILIhUBUFILIhOOBO
    OFILIhEBEFILIiYBEYFILIhOBOFILIiABOAFILIhSUKUNhLETTER_NAA=7C0aNKO_DIGIT_ZEROkONEkTWOlHREEkFOURl
    IVEkSIXlEVENkEIGHTkNINEeLETTER_AlEElIlElUlOOlOlDAGBASINNAlNlBAlPAlTAlJAlCHAlDAlRAmRAlSAlGBAlFA
    lKAlLAlNA_WOLOSOlMAlNYAmAlHAlWAlYAlNYA_WOLOSOlJONA_JAqCHAqRAeCOMBINING_SHORT_HIGH_TONEuLOW_TON
    EuRISING_TONEoLONG_DESCENDING_TONEtHIGH_TONEtLOW_TONEtRISING_TONEoNASALIZATION_MARKoDOUBLE_DOT
    _ABOVEeHIGH_TONE_APOSTROPHEeLOW_TONE_APOSTROPHEeSYMBOL_OO_DENNENlGBAKURUNENeCOMMAeEXCLAMATION_
    MARKeLAJANYALAN=7FDeDANTAYALANfOROME_SIGNeTAMAN_SIGNaSAMARITAN_LETTER_ALAFrBITrGAMANrDALATrIYr
    BAArZENrITrTITrYUTrKAAFrLABATrMIMrNUNrSINGAATrINrFIrTSAADIYrQUFrRISHrSHANrTAAFkMARK_INr-ALAFpO
    CCLUSIONpDAGESHlODIFIER_LETTER_EPENTHETIC_YUTlARK_EPENTHETIC_YUTkVOWEL_SIGN_LONG_EvEvOVERLONG_
    AAvLONG_AAvAAvOVERLONG_AvLONG_AvAkMODIFIER_LETTER_SHORT_AkVOWEL_SIGN_SHORT_AvLONG_UvUkMODIFIER
    _LETTER_IkVOWEL_SIGN_LONG_IvIvOvSUKUNkMARK_NEQUDAA=830kPUNCTUATION_NEQUDAAwAFSAAQxNGEDwBAUwATM
    AAUwSHIYYAALAAkABBREVIATION_MARKkPUNCTUATION_MELODIC_QITSAwZIQAAwQITSAwZAEFwTURUwARKAANUwSOF_M
    ASHFAATwANNAAU=840aMANDAIC_LETTER_HALQApABqGqDqHpUSHENNApAZpITpATTqKSAqKqLqMqNqSpINpAPqSZqQqRq
    SHqTpDUSHENNApKADpAINiAFFRICATION_MARKiVOCALIZATION_MARKiGEMINATION_MARK=85EiPUNCTUATION=860aS
    YRIAC_LETTER_MALAYALAM_NGAyJAyNYAyTTAyNNAzbNAyBHAyRAyLLAzbLAySSA=870aARABIC_LETTER_ALEF_WITH_A
    TTACHED_FATHAziTOP_RIGHT_FATHAyRIGHT_MIDDLE_STROKEyLEFT_MIDDLE_STROKEyATTACHED_KASRAziBOTTOM_R
    IGHT_KASRAziROUND_DOT_ABOVEzjIGHT_ROUND_DOTziLEFT_ROUND_DOTziROUND_DOT_BELOWyDOT_ABOVEyATTACHE
    D_TOP_RIGHT_FATHA_AND_DOT_ABOVEyRIGHT_MIDDLE_STROKE_AND_DOT_ABOVEyATTACHED_BOTTOM_RIGHT_KASRA_
    AND_DOT_ABOVEziTOP_RIGHT_FATHA_AND_LEFT_RINGyRIGHT_MIDDLE_STROKE_AND_LEFT_RINGyATTACHED_BOTTOM
    _RIGHT_KASRA_AND_LEFT_RINGziRIGHT_HAMZAziLEFT_HAMZAhTATWEEL_WITH_OVERSTRUCK_HAMZAzgWAWuTWO_DOT
    S_BELOWhLETTER_THIN_YEHhBASELINE_ROUND_DOThRAISED_ROUND_DOThLETTER_NOON_WITH_INVERTED_SMALL_Vo
    HAH_WITH_INVERTED_SMALL_V_BELOWoTAH_WITH_DOT_BELOWxTHREE_DOTS_BELOWoKEHEH_WITH_TWO_DOTS_VERTIC
    ALLY_BELOWhVERTICAL_TAIL=890hPOUND_MARK_ABOVEiIASTRE_MARK_ABOVE=898hSMALL_HIGH_WORD_AL-JUZnLOW
    _WORD_ISHMAAMxMAALAwTASHEELhMADDA_WAAJIBhSUPERSCRIPT_ALEF_MOKHASSAShDOUBLED_MADDAhHALF_MADDA_O
    VER_MADDAhLETTER_BEH_WITH_SMALL_V_BELOWxHAMZA_ABOVEoJEEM_WITH_TWO_DOTS_ABOVEoTAH_WITH_TWO_DOTS
    _ABOVEoFEH_WITH_DOT_BELOW_AND_THREE_DOTS_ABOVEoQAF_WITH_DOT_BELOWoLAM_WITH_DOUBLE_BARoMEEM_WIT
    H_THREE_DOTS_ABOVEoYEH_WITH_TWO_DOTS_BELOW_AND_HAMZA_ABOVEzrDOT_ABOVEoREH_WITH_LOOPoWAW_WITH_D
    OT_WITHINoROHINGYA_YEHoLOW_ALEFoDAL_WITH_THREE_DOTS_BELOWoSAD_WITH_THREE_DOTS_BELOWoGAF_WITH_I
    NVERTED_STROKEoSTRAIGHT_WAWoZAIN_WITH_INVERTED_V_ABOVEoAIN_WITH_THREE_DOTS_BELOWoKAF_WITH_DOT_
    BELOWoQAF_WITH_DOT_BELOW_AND_NO_DOTS_ABOVEoBEH_WITH_SMALL_MEEM_ABOVEoPEH_WITH_SMALL_MEEM_ABOVE
    oTEH_WITH_SMALL_TEH_ABOVEoREH_WITH_SMALL_NOON_ABOVEoYEH_WITH_TWO_DOTS_BELOW_AND_SMALL_NOON_ABO
    VEoAFRICAN_FEHwQAFwNOONoPEH_WITH_SMALL_VoTEH_WITH_SMALL_VpTEH_WITH_SMALL_VpCHEH_WITH_SMALL_VoK
    EHEH_WITH_SMALL_VoGHAIN_WITH_THREE_DOTS_ABOVEoAFRICAN_QAF_WITH_THREE_DOTS_ABOVEoJEEM_WITH_THRE
    E_DOTS_ABOVEzkBELOWoLAM_WITH_SMALL_ARABIC_LETTER_TAH_ABOVEoGRAFhSMALL_FARSI_YEHnHIGH_FARSI_YEH
    sYEH_BARREE_WITH_TWO_DOTS_BELOWsWORD_SAHsZAHhLARGE_ROUND_DOT_ABOVExBELOWhSUKUN_BELOWhLARGE_CIR
    CLE_BELOWnROUND_DOT_INSIDE_CIRCLE_BELOWhSMALL_LOW_WAWnHIGH_WORD_AR-RUBsSADsAINsQAFsNOON_WITH_K
    ASRAnLOW_NOON_WITH_KASRAnHIGH_WORD_ATH-THALATHAyS-SAJDAyN-NISFxSAKTAxQIFxWAQFAsFOOTNOTE_MARKER
    sSIGN_SAFHAhDISPUTED_END_OF_AYAHhTURNED_DAMMA_BELOWhCURLY_FATHAnDAMMAnKASRAnFATHATANnDAMMATANn
    KASRATANhTONE_ONE_DOT_ABOVEmTWO_DOTS_ABOVEmLOOP_ABOVEmONE_DOT_BELOWmTWO_DOTS_BELOWmLOOP_BELOWh
    OPEN_FATHATANmDAMMATANmKASRATANhSMALL_HIGH_WAWhFATHA_WITH_RINGsDOT_ABOVEhKASRA_WITH_DOT_BELOWh
    LEFT_ARROWHEAD_ABOVEhRIGHT_ARROWHEAD_ABOVEhLEFT_ARROWHEAD_BELOWhRIGHT_ARROWHEAD_BELOWhDOUBLE_R
    IGHT_ARROWHEAD_ABOVEzk_WITH_DOThRIGHT_ARROWHEAD_ABOVE_WITH_DOThDAMMA_WITH_DOThMARK_SIDEWAYS_NO
    ON_GHUNNAaDEVANAGARI_SIGN_INVERTED_CANDRABINDUqCANDRABINDUqANUSVARAqVISARGAlLETTER_SHORT_AsAtA
    sItIsUtUsVOCALIC_RzbLsCANDRA_EsSHORT_EsEsAIsCANDRA_OsSHORT_OsOsAUsKAtHAsGAtHAsNGAsCAtHAsJAtHAs
    NYAsTTAuHAsDDAuHAsNNAsTAtHAsDAtHAsNAtNNAsPAtHAsBAtHAsMAsYAsRAtRAsLAtLAuLAsVAsSHAtSAtAsHAlVOWEL
    _SIGN_OExOElSIGN_NUKTAqAVAGRAHAlVOWEL_SIGN_AAwIxIwUxUwVOCALIC_RzgRwCANDRA_EwSHORT_EwEwAIwCANDR
    A_OwSHORT_OwOwAUlSIGN_VIRAMAlVOWEL_SIGN_PRISHTHAMATRA_EwAWlOMlSTRESS_SIGN_UDATTAxANUDATTAlGRAV
    E_ACCENTlACUTE_ACCENTlVOWEL_SIGN_CANDRA_LONG_EwUExUElLETTER_QAsKHHAsGHHAsZAsDDDHAsRHAsFAsYYAsV
    OCALIC_RRzbLLlVOWEL_SIGN_VOCALIC_LzgLlDANDAmOUBLE_DANDAmIGIT_ZEROrONErTWOsHREErFOURsIVErSIXsEV
    ENrEIGHTrNINElABBREVIATION_SIGNlSIGN_HIGH_SPACING_DOTlLETTER_CANDRA_AsOEtOEsAWsUEtUEsMARWARI_D
    DAsZHAsHEAVY_YAsGGAsJJAsGLOTTAL_STOPsDDDAsBBAaBENGALI_ANJIiSIGN_CANDRABINDUnANUSVARAnVISARGA=9
    85iLETTER_AqApIqIpUqUpVOCALIC_RxL=98FpEpAI=993pOpAUpKAqHApGAqHApNGApCAqHApJAqHApNYApTTArHApDDA
    rHApNNApTAqHApDAqHApNA=9AApPAqHApBAqHApMApYApRA=9B2pLA=9B6pSHAqSAqApHA=9BCiSIGN_NUKTAnAVAGRAHA
    iVOWEL_SIGN_AAtIuItUuUtVOCALIC_RzdR=9C7tEtAI=9CBtOtAUiSIGN_VIRAMAiLETTER_KHANDA_TA=9D7iAU_LENG
    TH_MARK=9DCiLETTER_RRAqHA=9DFpYYApVOCALIC_RRxLLiVOWEL_SIGN_VOCALIC_LzdL=9E6iDIGIT_ZEROoONEoTWO
    pHREEoFOURpIVEoSIXpEVENoEIGHToNINEiLETTER_RA_WITH_MIDDLE_DIAGONALxLOWER_DIAGONALiRUPEE_MARKoSI
    GNiCURRENCY_NUMERATOR_ONEzcTWOzdHREEzcFOURzcONE_LESS_THAN_THE_DENOMINATORrDENOMINATOR_SIXTEENi
    ISSHARiGANDA_MARKiLETTER_VEDIC_ANUSVARAiABBREVIATION_SIGNiSANDHI_MARK=A01aGURMUKHI_SIGN_ADAK_B
    INDIoBINDIoVISARGA=A05jLETTER_ArAqIrIqUrU=A0FqEEqAI=A13qOOqAUqKArHAqGArHAqNGAqCArHAqJArHAqNYAq
    TTAsHAqDDAsHAqNNAqTArHAqDArHAqNA=A2AqPArHAqBArHAqMAqYAqRA=A32qLArLA=A35qVAqSHA=A38rAqHA=A3CjSI
    GN_NUKTA=A3EjVOWEL_SIGN_AAuIvIuUvU=A47uEEuAI=A4BuOOuAUjSIGN_VIRAMA=A51oUDAAT=A59jLETTER_KHHAqG
    HHAqZAqRRA=A5EqFA=A66jDIGIT_ZEROpONEpTWOqHREEpFOURqIVEpSIXqEVENpEIGHTpNINEjTIPPIjADDAKjIRIjURA
    jEK_ONKARjSIGN_YAKASHjABBREVIATION_SIGN=A81cJARATI_SIGN_CANDRABINDUoANUSVARAoVISARGA=A85jLETTE
    R_ArAqIrIqUrUqVOCALIC_RyLjVOWEL_CANDRA_E=A8FjLETTER_EqAIjVOWEL_CANDRA_O=A93jLETTER_OqAUqKArHAq
    GArHAqNGAqCArHAqJArHAqNYAqTTAsHAqDDAsHAqNNAqTArHAqDArHAqNA=AAAqPArHAqBArHAqMAqYAqRA=AB2qLArLA=
    AB5qVAqSHArSArAqHA=ABCjSIGN_NUKTAoAVAGRAHAjVOWEL_SIGN_AAuIvIuUvUuVOCALIC_RzeRuCANDRA_E=AC7uEuA
    IuCANDRA_O=ACBuOuAUjSIGN_VIRAMA=AD0jOM=AE0jLETTER_VOCALIC_RRyLLjVOWEL_SIGN_VOCALIC_LzeL=AE6jDI
    GIT_ZEROpONEpTWOqHREEpFOURqIVEpSIXqEVENpEIGHTpNINEjABBREVIATION_SIGNjRUPEE_SIGN=AF9jLETTER_ZHA
    jSIGN_SUKUNpHADDAoMADDAHoTHREE-DOT_NUKTA_ABOVEoCIRCLE_NUKTA_ABOVEoTWO-CIRCLE_NUKTA_ABOVE=B01aO
    RIYA_SIGN_CANDRABINDUlANUSVARAlVISARGA=B05gLETTER_AoAnIoInUoUnVOCALIC_RvL=B0FnEnAI=B13nOnAUnKA
    oHAnGAoHAnNGAnCAoHAnJAoHAnNYAnTTApHAnDDApHAnNNAnTAoHAnDAoHAnNA=B2AnPAoHAnBAoHAnMAnYAnRA=B32nLA
    oLA=B35nVAnSHAoSAoAnHA=B3CgSIGN_NUKTAlAVAGRAHAgVOWEL_SIGN_AArIsIrUsUrVOCALIC_RzbR=B47rErAI=B4B
    rOrAUgSIGN_VIRAMA=B55lOVERLINEgAI_LENGTH_MARKhU_LENGTH_MARK=B5CgLETTER_RRAoHA=B5FnYYAnVOCALIC_
    RRvLLgVOWEL_SIGN_VOCALIC_LzbL=B66gDIGIT_ZEROmONEmTWOnHREEmFOURnIVEmSIXnEVENmEIGHTmNINEgISSHARg
    LETTER_WAgFRACTION_ONE_QUARTERtHALFpTHREE_QUARTERSpONE_SIXTEENTHtEIGHTHpTHREE_SIXTEENTHS=B82aT
    AMIL_SIGN_ANUSVARAlVISARGA=B85gLETTER_AoAnIoInUoU=B8EnEoEnAI=B92nOoOnAUnKA=B99nNGAnCA=B9CnJA=B
    9EnNYAnTTA=BA3nNNAnTA=BA8nNAoNNAnPA=BAEnMAnYAnRAoRAnLAoLApLAnVAnSHAoSAoAnHA=BBEgVOWEL_SIGN_AAr
    IsIrUsU=BC6rEsErAI=BCArOsOrAUgSIGN_VIRAMA=BD0gOM=BD7gAU_LENGTH_MARK=BE6gDIGIT_ZEROmONEmTWOnHRE
    EmFOURnIVEmSIXnEVENmEIGHTmNINEgNUMBER_TENnONE_HUNDREDrTHOUSANDgDAY_SIGNgMONTH_SIGNgYEAR_SIGNgD
    EBIT_SIGNgCREDIT_SIGNgAS_ABOVE_SIGNgRUPEE_SIGNgNUMBER_SIGN=C00bELUGU_SIGN_COMBINING_CANDRABIND
    U_ABOVEnANDRABINDUmANUSVARAmVISARGAmCOMBINING_ANUSVARA_ABOVEhLETTER_ApAoIpIoUpUoVOCALIC_RwL=C0
    EoEpEoAI=C12oOpOoAUoKApHAoGApHAoNGAoCApHAoJApHAoNYAoTTAqHAoDDAqHAoNNAoTApHAoDApHAoNA=C2AoPApHA
    oBApHAoMAoYAoRApRAoLApLAqLAoVAoSHApSApAoHA=C3ChSIGN_NUKTAmAVAGRAHAhVOWEL_SIGN_AAsItIsUtUsVOCAL
    IC_RzcR=C46sEtEsAI=C4AsOtOsAUhSIGN_VIRAMA=C55hLENGTH_MARKhAI_LENGTH_MARK=C58hLETTER_TSAoDZAoRR
    RA=C5DoNAKAARA_POLLU=C60oVOCALIC_RRwLLhVOWEL_SIGN_VOCALIC_LzcL=C66hDIGIT_ZEROnONEnTWOoHREEnFOU
    RoIVEnSIXoEVENnEIGHTnNINE=C77hSIGN_SIDDHAMhFRACTION_DIGIT_ZERO_FOR_ODD_POWERS_OF_FOURwONE_FOR_
    ODD_POWERS_OF_FOURwTWO_FOR_ODD_POWERS_OF_FOURxHREE_FOR_ODD_POWERS_OF_FOURwONE_FOR_EVEN_POWERS_
    OF_FOURwTWO_FOR_EVEN_POWERS_OF_FOURxHREE_FOR_EVEN_POWERS_OF_FOURhSIGN_TUUMUaKANNADA_SIGN_SPACI
    NG_CANDRABINDUnCANDRABINDUnANUSVARAnVISARGAnSIDDHAMiLETTER_AqApIqIpUqUpVOCALIC_RxL=C8EpEqEpAI=
    C92pOqOpAUpKAqHApGAqHApNGApCAqHApJAqHApNYApTTArHApDDArHApNNApTAqHApDAqHApNA=CAApPAqHApBAqHApMA
    pYApRAqRApLAqLA=CB5pVApSHAqSAqApHA=CBCiSIGN_NUKTAnAVAGRAHAiVOWEL_SIGN_AAtIuItUuUtVOCALIC_RzdR=
    CC6tEuEtAI=CCAtOuOtAUiSIGN_VIRAMA=CD5iLENGTH_MARKiAI_LENGTH_MARK=CDDiLETTER_NAKAARA_POLLUpFA=C
    E0pVOCALIC_RRxLLiVOWEL_SIGN_VOCALIC_LzdL=CE6iDIGIT_ZEROoONEoTWOpHREEoFOURpIVEoSIXpEVENoEIGHToN
    INE=CF1iSIGN_JIHVAMULIYAnUPADHMANIYA=D00aMALAYALAM_SIGN_COMBINING_ANUSVARA_ABOVEqANDRABINDUpAN
    USVARApVISARGAkLETTER_VEDIC_ANUSVARArAsArIsIrUsUrVOCALIC_RzL=D0ErEsErAI=D12rOsOrAUrKAsHArGAsHA
    rNGArCAsHArJAsHArNYArTTAtHArDDAtHArNNArTAsHArDAsHArNAsNNArPAsHArBAsHArMArYArRAsRArLAsLAtLArVAr
    SHAsSAsArHArTTTAkSIGN_VERTICAL_BAR_VIRAMApCIRCULAR_VIRAMApAVAGRAHAkVOWEL_SIGN_AAvIwIvUwUvVOCAL
    IC_RzfR=D46vEwEvAI=D4AvOwOvAUkSIGN_VIRAMAkLETTER_DOT_REPHkSIGN_PARA=D54kLETTER_CHILLU_MyYyLLLk
    AU_LENGTH_MARKkFRACTION_ONE_ONE-HUNDRED-AND-SIXTIETHxFORTIETHtTHREE_EIGHTIETHStONE_TWENTIETHyE
    NTHtTHREE_TWENTIETHStONE_FIFTHkLETTER_ARCHAIC_IIrVOCALIC_RRzLLkVOWEL_SIGN_VOCALIC_LzfL=D66kDIG
    IT_ZEROqONEqTWOrHREEqFOURrIVEqSIXrEVENqEIGHTqNINEkNUMBER_TENrONE_HUNDREDvTHOUSANDkFRACTION_ONE
    _QUARTERxHALFtTHREE_QUARTERStONE_SIXTEENTHxEIGHTHtTHREE_SIXTEENTHSkDATE_MARKkLETTER_CHILLU_NNy
    NyRRyLzLyK=D81aSINHALA_SIGN_CANDRABINDUnANUSVARAYAnVISARGAYA=D85iLETTER_AYANNAqAYANNAqEYANNArE
    YANNApIYANNAqIYANNApUYANNAqUYANNApIRUYANNAsUYANNAqLUYANNAsUYANNApEYANNAqEYANNApAIYANNApOYANNAq
    OYANNApAUYANNA=D9AqLPAPRAANA_KAYANNApMAHAAPRAANA_KAYANNApALPAPRAANA_GAYANNApMAHAAPRAANA_GAYANN
    ApKANTAJA_NAASIKYAYApSANYAKA_GAYANNApALPAPRAANA_CAYANNApMAHAAPRAANA_CAYANNApALPAPRAANA_JAYANNA
    pMAHAAPRAANA_JAYANNApTAALUJA_NAASIKYAYAxSANYOOGA_NAAKSIKYAYApSANYAKA_JAYANNApALPAPRAANA_TTAYAN
    NApMAHAAPRAANA_TTAYANNApALPAPRAANA_DDAYANNApMAHAAPRAANA_DDAYANNAqUURDHAJA_NAYANNApSANYAKA_DDAY
    ANNApALPAPRAANA_TAYANNApMAHAAPRAANA_TAYANNApALPAPRAANA_DAYANNApMAHAAPRAANA_DAYANNApDANTAJA_NAY
    ANNA=DB3pSANYAKA_DAYANNApALPAPRAANA_PAYANNApMAHAAPRAANA_PAYANNApALPAPRAANA_BAYANNApMAHAAPRAANA
    _BAYANNArYANNApAMBA_BAYANNApYAYANNApRAYANNA=DBDpDANTAJA_LAYANNA=DC0pVAYANNApTAALUJA_SAYANNApMU
    URDHAJA_SAYANNApDANTAJA_SAYANNApHAYANNApMUURDHAJA_LAYANNApFAYANNA=DCAiSIGN_AL-LAKUNA=DCFiVOWEL
    _SIGN_AELA-PILLAtKETTI_AEDA-PILLAtDIGA_AEDA-PILLAtKETTI_IS-PILLAtDIGA_IS-PILLAtKETTI_PAA-PILLA
    =DD6tDIGA_PAA-PILLA=DD8tGAETTA-PILLAtKOMBUVAtDIGA_KOMBUVAtKOMBU_DEKAyVA_HAA_AELA-PILLAzgDIGA_A
    ELA-PILLAzgGAYANUKITTAtGAYANUKITTA=DE6iLITH_DIGIT_ZEROtONEtTWOuHREEtFOURuIVEtSIXuEVENtEIGHTtNI
    NE=DF2iVOWEL_SIGN_DIGA_GAETTA-PILLAzbYANUKITTAiPUNCTUATION_KUNDDALIYA=E01aTHAI_CHARACTER_KO_KA
    IqHO_KHAIvUATvWAIvONtRAKHANGpNGO_NGUpCHO_CHANvINGvANGpSO_SOpCHO_CHOEpYO_YINGpDO_CHADApTO_PATAK
    qHO_THANtNANGMONTHOtPHUTHAOpNO_NENpDO_DEKpTO_TAOqHO_THUNGvAHANvONGpNO_NUpBO_BAIMAIpPO_PLAqHO_P
    HUNGpFO_FApPHO_PHANpFO_FANpPHO_SAMPHAOpMO_MApYO_YAKpRO_RUAqUpLO_LINGqUpWO_WAENpSO_SALAsRUSIsSU
    ApHO_HIPpLO_CHULApO_ANGpHO_NOKHUKpPAIYANNOIpSARA_ApMAI_HAN-AKATpSARA_AAvMuIvIuUEwEuUvUpPHINTHU
    =E3FgURRENCY_SYMBOL_BAHTgHARACTER_SARA_EuAEuOuAI_MAIMUANzcALAIpLAKKHANGYAOpMAIYAMOKsTAIKHUs_EK
    tTHOuRItCHATTAWApTHANTHAKHATpNIKHAHITpYAMAKKANpFONGMANfDIGIT_ZEROlONElTWOmHREElFOURmIVElSIXmEV
    ENlEIGHTlNINEfCHARACTER_ANGKHANKHUpKHOMUT=E81aLAO_LETTER_KOmHO_SUNG=E84pTAM=E86lPALI_GHAlNGOlC
    OlPALI_CHAlSO_TAM=E8ClPALI_JHAlNYOlPALI_NYAqTTAsHAqDDAsHAqNNAlDOlTOmHO_SUNGpTAMlPALI_DHAlNOlBO
    lPOmHO_SUNGlFO_TAMlPHO_TAMlFO_SUNGlPALI_BHAlMOlYOlLO_LING=EA5pOOT=EA7lWOlSANSKRIT_SHAvSAmO_SUN
    GlHO_SUNGlPALI_LLAlOlHO_TAMeELLIPSISeVOWEL_SIGN_ApMAI_KANpAAqMpIqIpYqYpUqUeSIGN_PALI_VIRAMAeVO
    WEL_SIGN_MAI_KONeSEMIVOWEL_SIGN_LOtNYO=EC0eVOWEL_SIGN_EqIpOpAYqI=EC6eKO_LA=EC8eTONE_MAI_EKnTHO
    oInCATAWAeCANCELLATION_MARKeNIGGAHITA=ED0eDIGIT_ZEROkONEkTWOlHREEkFOURlIVEkSIXlEVENkEIGHTkNINE
    =EDCeHO_NOhMOeLETTER_KHMU_GOqNYO=F00aTIBETAN_SYLLABLE_OMiMARK_GTER_YIG_MGO_TRUNCATED_Azb-UM_RN
    AM_BCAD_MAzfGTER_TSHEG_MAnINITIAL_YIG_MGO_MDUN_MAnCLOSING_YIG_MGO_SGAB_MAoARET_YIG_MGO_PHUR_SH
    AD_MAnYIG_MGO_TSHEG_SHAD_MAnSBRUL_SHADnBSKUR_YIG_MGOoKA-_SHOG_YIG_MGOnINTERSYLLABIC_TSHEGnDELI
    MITER_TSHEG_BSTARnSHADnNYIS_SHADnTSHEG_SHADnNYIS_TSHEG_SHADnRIN_CHEN_SPUNGS_SHADoGYA_GRAM_SHAD
    nCARET_-DZUD_RTAGS_ME_LONG_CANnGTER_TSHEGiLOGOTYPE_SIGN_CHAD_RTAGSwLHAG_RTAGSiASTROLOGICAL_SIG
    N_SGRA_GCAN_-CHAR_RTAGSzb-KHYUD_PAzbSDONG_TSHUGSiSIGN_RDEL_DKAR_GCIGyNYISySUMsNAG_GCIGxNYISsDK
    AR_RDEL_NAGiDIGIT_ZEROoONEoTWOpHREEoFOURpIVEoSIXpEVENoEIGHToNINEoHALF_ONEtTWOuHREEtFOURuIVEtSI
    XuEVENtEIGHTtNINEtZEROiMARK_BSDUS_RTAGSnNGAS_BZUNG_NYI_ZLAnCARET_-DZUD_RTAGS_BZHI_MIG_CANnNGAS
    _BZUNG_SGOR_RTAGSnCHE_MGOnTSA_-PHRUnGUG_RTAGS_GYONzASnANG_KHANG_GYONzASiSIGN_YAR_TSHESnMAR_TSH
    ESiLETTER_KAqHApGAqHApNGApCAqHApJA=F49pNYApTTArHApDDArHApNNApTAqHApDAqHApNApPAqHApBAqHApMApTSA
    rHApDZArHApWApZHAqAp-ApYApRApLApSHAqSAqApHApApKSSApFIXED-FORM_RApKKApRRA=F71iVOWEL_SIGN_AAtIuI
    tUuUtVOCALIC_RzdRzcLzdLtEuEtOuOiSIGN_RJES_SU_NGA_ROoNAM_BCADiVOWEL_SIGN_REVERSED_IzeIiSIGN_NYI
    _ZLA_NAA_DAnSNA_LDANiMARK_HALANTAnPALUTAiSIGN_LCI_RTAGSnYANG_RTAGSnLCE_TSA_CANnMCHU_CANnGRU_CA
    N_RGYINGSrMED_RGYINGSnINVERTED_MCHU_CANjUBJOINED_SIGN_LCE_TSA_CANxMCHU_CANxINVERTED_MCHU_CANsL
    ETTER_KAzbHAzGAzbHAzNGAzCAzbHAzJA=F99zNYAzTTAzcHAzDDAzcHAzNNAzTAzbHAzDAzbHAzNAzPAzbHAzBAzbHAzM
    AzTSAzcHAzDZAzcHAzWAzZHAzbAz-AzYAzRAzLAzSHAzbSAzbAzHAzAzKSSAzFIXED-FORM_WAzlYAzlRA=FBEiKU_RU_K
    HAr_BZHI_MIG_CANiCANTILLATION_SIGN_HEAVY_BEATzbLIGHT_BEATzbCANG_TE-UzbSBUB_-CHALiSYMBOL_DRIL_B
    UpRDO_RJEpPADMA_GDANpRDO_RJE_RGYA_GRAMpPHUR_PApNOR_BUv_NYIS_-KHYILwGSUM_-KHYILwBZHI_-KHYIL=FCE
    jIGN_RDEL_NAG_RDEL_DKARwGSUMiMARK_BSKA-_SHOG_GI_MGO_RGYANnMNYAM_YIG_GI_MGO_RGYANnNYIS_TSHEGnIN
    ITIAL_BRDA_RNYING_YIG_MGO_MDUN_MAnCLOSING_BRDA_RNYING_YIG_MGO_SGAB_MAaRIGHT-FACING_SVASTI_SIGN
    aLEFT-FACING_SVASTI_SIGNaRIGHT-FACING_SVASTI_SIGN_WITH_DOTSaLEFT-FACING_SVASTI_SIGN_WITH_DOTSa
    TIBETAN_MARK_LEADING_MCHAN_RTAGSnTRAILING_MCHAN_RTAGS=1000aMYANMAR_LETTER_KAqHApGAqHApNGApCAqH
    ApJAqHApNYAqNYApTTArHApDDArHApNNApTAqHApDAqHApNApPAqHApBAqHApMApYApRApLApWApSApHApLLApApSHAN_A
    pIqIpUqUpEpMON_EpOpAUiVOWEL_SIGN_TALL_AAtAAtIuItUuUtEtAItMON_IIxOtE_ABOVEiSIGN_ANUSVARAnDOT_BE
    LOWnVISARGApRAMAnASATiCONSONANT_SIGN_MEDIAL_YAzfRAzfWAzfHAiLETTER_GREAT_SAiDIGIT_ZEROoONEoTWOp
    HREEoFOURpIVEoSIXpEVENoEIGHToNINEiSIGN_LITTLE_SECTIONnSECTIONjYMBOL_LOCATIVEpCOMPLETEDpAFOREME
    NTIONEDpGENITIVEiLETTER_SHAqSApVOCALIC_RyRxLyLiVOWEL_SIGN_VOCALIC_RzdRzcLzdLiLETTER_MON_NGAtJH
    AtBBAvEiCONSONANT_SIGN_MON_MEDIAL_NAzjMAzjLAiLETTER_SGAW_KAREN_SHAiVOWEL_SIGN_SGAW_KAREN_EUiTO
    NE_MARK_SGAW_KAREN_HATHIzeKE_PHOiLETTER_WESTERN_PWO_KAREN_THAziPWAiVOWEL_SIGN_WESTERN_PWO_KARE
    N_EUzmUEiSIGN_WESTERN_PWO_KAREN_TONE-1zl2zl3zl4zl5iLETTER_EASTERN_PWO_KAREN_NNAziYWAziGHWAiVOW
    EL_SIGN_GEBA_KAREN_ItKAYAH_OEzUzEEiLETTER_SHAN_KAvHAuGAuCAuZAuNYAuDAuNAuPHAuFAuBAuTHAuHAiCONSO
    NANT_SIGN_SHAN_MEDIAL_WAiVOWEL_SIGN_SHAN_AAyEz_ABOVEyFINAL_YiSIGN_SHAN_TONE-2x3x5x6sCOUNCIL_TO
    NE-2zg3zbEMPHATIC_TONEiLETTER_RUMAI_PALAUNG_FAiSIGN_RUMAI_PALAUNG_TONE-5jHAN_DIGIT_ZEROtONEtTW
    OuHREEtFOURuIVEtSIXuEVENtEIGHTtNINEjIGN_KHAMTI_TONE-1z3iVOWEL_SIGN_AITON_AzbIiSYMBOL_SHAN_ONEu
    EXCLAMATIONaGEORGIAN_CAPITAL_LETTER_ANyBANyGANyDONyENyVINyZENyTANyINyKANyLASyMANyNARyONyPARyZH
    ARyRAEySANyTARyUNyPHARyKHARyGHANyQARySHINyCHINzANyJILyCILzHARyXANyJHANyHAEzEzIEyWEyHARzOE=10C7
    yYN=10CDyAEN=10D0jLETTER_ANqBANqGANqDONqENqVINqZENqTANqINqKANqLASqMANqNARqONqPARqZHARqRAEqSANq
    TARqUNqPHARqKHARqGHANqQARqSHINqCHINrANqJILqCILrHARqXANqJHANqHAErErIEqWEqHARrOEqFIqYNqELIFIqTUR
    NED_GANqAINjPARAGRAPH_SEPARATORaMODIFIER_LETTER_GEORGIAN_NARaGEORGIAN_LETTER_AENqHARD_SIGNqLAB
    IAL_SIGNaHANGUL_CHOSEONG_KIYEOKqSSANGKIYEOKqNIEUNqTIKEUTqSSANGTIKEUTqRIEULqMIEUMqPIEUPqSSANGPI
    EUPrIOSrSANGSIOSqIEUNGqCIEUCqSSANGCIEUCqCHIEUCHqKHIEUKHqTHIEUTHqPHIEUPHqHIEUHqNIEUN-KIYEOKqSSA
    NGNIEUNqNIEUN-TIKEUTwPIEUPqTIKEUT-KIYEOKqRIEUL-NIEUNqSSANGRIEULqRIEUL-HIEUHqKAPYEOUNRIEULqMIEU
    M-PIEUPqKAPYEOUNMIEUMqPIEUP-KIYEOKwNIEUNwTIKEUTwSIOSzb-KIYEOKzcTIKEUTzcPIEUPxSANGSIOSxIOS-CIEU
    CwCIEUCxHIEUCHwTHIEUTHwPHIEUPHqKAPYEOUNPIEUPySSANGPIEUPqSIOS-KIYEOKvNIEUNvTIKEUTvRIEULvMIEUMvP
    IEUPzb-KIYEOKvSSANGSIOSvIEUNGvCIEUCwHIEUCHvKHIEUKHvTHIEUTHvPHIEUPHvHIEUHqCHITUEUMSIOSzSANGSIOS
    rEONGCHIEUMSIOSzdSANGSIOSqPANSIOSqIEUNG-KIYEOKwTIKEUTwMIEUMwPIEUPwSIOSwPANSIOSqSSANGIEUNGqIEUN
    G-CIEUCxHIEUCHwTHIEUTHwPHIEUPHqYESIEUNGqCIEUC-IEUNGrHITUEUMCIEUCySSANGCIEUCrEONGCHIEUMCIEUCzcS
    SANGCIEUCrHIEUCH-KHIEUKHyHIEUHtTUEUMCHIEUCHrEONGCHIEUMCHIEUCHqPHIEUPH-PIEUPqKAPYEOUNPHIEUPHqSS
    ANGHIEUHqYEORINHIEUHqKIYEOK-TIKEUTqNIEUN-SIOSwCIEUCwHIEUHqTIKEUT-RIEULqFILLERhJUNGSEONG_FILLER
    rAsErYAtErEOrErYEOsErOrWAtErOErYOrUrWEOsEsIrYUrEUrYIrIrA-OtUrYA-OuYOrEO-OuUuEUrYEO-OvUrO-EOtEt
    YEtOtUrYO-YAwEvEOuOuIrU-AuEtEO-EUtYEtUrYU-AuEOuEuYEOvEuUuIrEU-UuEUrYI-UrI-AtYAtOtUtEUtARAEArAR
    AEAw-EOxUxIrSSANGARAEArA-EUrYA-UsEO-YArO-YAvEiONGSEONG_KIYEOKrSSANGKIYEOKrKIYEOK-SIOSrNIEUNw-C
    IEUCxHIEUHrTIKEUTrRIEULw-KIYEOKxMIEUMxPIEUPxSIOSxTHIEUTHxPHIEUPHxHIEUHrMIEUMrPIEUPw-SIOSrSIOSs
    SANGSIOSrIEUNGrCIEUCsHIEUCHrKHIEUKHrTHIEUTHrPHIEUPHrHIEUHrKIYEOK-RIEULySIOS-KIYEOKrNIEUN-KIYEO
    KxTIKEUTxSIOSxPANSIOSxTHIEUTHrTIKEUT-KIYEOKyRIEULrRIEUL-KIYEOK-SIOSxNIEUNxTIKEUTze-HIEUHrSSANG
    RIEULrRIEUL-MIEUM-KIYEOKzeSIOSxPIEUP-SIOSzeHIEUHxKAPYEOUNPIEUPxSSANGSIOSxPANSIOSxKHIEUKHxYEORI
    NHIEUHrMIEUM-KIYEOKxRIEULxPIEUPxSIOSySANGSIOSxPANSIOSxCHIEUCHxHIEUHrKAPYEOUNMIEUMrPIEUP-RIEULx
    PHIEUPHxHIEUHrKAPYEOUNPIEUPrSIOS-KIYEOKwTIKEUTwRIEULwPIEUPrPANSIOSrIEUNG-KIYEOKxSSANGKIYEOKrSS
    ANGIEUNGrIEUNG-KHIEUKHrYESIEUNGz-SIOSzbPANSIOSrPHIEUPH-PIEUPrKAPYEOUNPHIEUPHrHIEUH-NIEUNxRIEUL
    xMIEUMxPIEUPrYEORINHIEUHrKIYEOK-NIEUNyPIEUPyCHIEUCHyKHIEUKHyHIEUHrSSANGNIEUNaETHIOPIC_SYLLABLE
    _HAtUtItAAtEEtEtOuAsLAtUtItAAtEEtEtOtWAsHHAuUuIuAAuEEuEuOuWAsMAtUtItAAtEEtEtOtWAsSZAuUuIuAAuEE
    uEuOuWAsRAtUtItAAtEEtEtOtWAsSAtUtItAAtEEtEtOtWAtHAuUuIuAAuEEuEuOuWAsQAtUtItAAtEEtEtOuAtWA=124A
    uIuAAuEEuE=1250tHAuUuIuAAuEEuEuO=1258uWA=125AvIvAAvEEvE=1260sBAtUtItAAtEEtEtOtWAsVAtUtItAAtEEt
    EtOtWAsTAtUtItAAtEEtEtOtWAsCAtUtItAAtEEtEtOtWAsXAtUtItAAtEEtEtOuAtWA=128AuIuAAuEEuE=1290sNAtUt
    ItAAtEEtEtOtWAtYAuUuIuAAuEEuEuOuWAsGLOTTAL_AzbUzbIzbAAzbEEzbEzbOzbWAsKAtUtItAAtEEtEtOuAtWA=12B
    2uIuAAuEEuE=12B8tXAuUuIuAAuEEuEuO=12C0uWA=12C2vIvAAvEEvE=12C8sWAtUtItAAtEEtEtOuAsPHARYNGEAL_Az
    eUzeIzeAAzeEEzeEzeO=12D8sZAtUtItAAtEEtEtOtWAtHAuUuIuAAuEEuEuOuWAsYAtUtItAAtEEtEtOuAsDAtUtItAAt
    EEtEtOtWAtDAuUuIuAAuEEuEuOuWAsJAtUtItAAtEEtEtOtWAsGAtUtItAAtEEtEtOuAtWA=1312uIuAAuEEuE=1318tGA
    uUuIuAAuEEuEuOuWAAsTHAuUuIuAAuEEuEuOuWAsCHAuUuIuAAuEEuEuOuWAsPHAuUuIuAAuEEuEuOuWAsTSAuUuIuAAuE
    EuEuOuWAtZAuUuIuAAuEEuEuOvAsFAtUtItAAtEEtEtOtWAsPAtUtItAAtEEtEtOtWAsRYAsMYAsFYA=135DjCOMBINING
    _GEMINATION_AND_VOWEL_LENGTH_MARKtVOWEL_LENGTH_MARKtGEMINATION_MARKjSECTION_MARKjWORDSPACEjFUL
    L_STOPjCOMMAjSEMICOLONjCOLONjPREFACE_COLONjQUESTION_MARKjPARAGRAPH_SEPARATORjDIGIT_ONEpTWOqHRE
    EpFOURqIVEpSIXqEVENpEIGHTpNINEjNUMBER_TENrWENTYrHIRTYqFORTYrIFTYqSIXTYrEVENTYqEIGHTYqNINETYqHU
    NDREDqTEN_THOUSAND=1380jSYLLABLE_SEBATBEIT_MWAsMWIuEEuEsSEBATBEIT_BWAsBWIuEEuEsSEBATBEIT_FWAsF
    WIuEEuEsSEBATBEIT_PWAsPWIuEEuEjTONAL_MARK_YIZETuDERETuRIKRIKuSHORT_RIKRIKuDIFATuKENATuCHIRETuH
    IDETuDERET-HIDETuKURT=13A0aCHEROKEE_LETTER_AqEqIqOqUqVqGAqKAqGErIrOrUrVqHArErIrOrUrVqLArErIrOr
    UrVqMArErIrOrUqNAqHNAqNAHrErIrOrUrVqQUAsEsIsOsUsVqSAqSrErIrOrUrVqDAqTAqDEqTEqDIqTIqDOrUrVrLAqT
    LAsEsIsOsUsVrSAsEsIsOsUsVqWArErIrOrUrVqYArErIrOrUrVqMV=13F8jSMALL_LETTER_YExIxOxUxVwMV=1400bAN
    ADIAN_SYLLABICS_HYPHENtEtAAItIuItOuOtY-CREE_OOtCARRIER_EEzcItAuAtWEvST-CREE_WEuIuEST-CREE_WIuI
    IuEST-CREE_WIIuOuEST-CREE_WOuOOuEST-CREE_WOOtNASKAPI_WOOtWAuEST-CREE_WAuAAuEST-CREE_WAAtNASKAP
    I_WAAtAItY-CREE_WtGLOTTAL_STOPtFINAL_ACUTEzGRAVEzBOTTOM_HALF_RINGzTOP_HALF_RINGzRIGHT_HALF_RIN
    GzcNGzDOUBLE_ACUTEzhSHORT_VERTICAL_STROKESzMIDDLE_DOTzSHORT_HORIZONTAL_STROKEzPLUSzDOWN_TACKtE
    NtINtONtANtPEuAAIuIvIuOvOtY-CREE_POOtCARRIER_HEEzdItPAvAuWEtWEST-CREE_PWEtPWItWEST-CREE_PWItPW
    IItWEST-CREE_PWIItPWOtWEST-CREE_PWOtPWOOtWEST-CREE_PWOOtPWAtWEST-CREE_PWAtPWAAtWEST-CREE_PWAAt
    Y-CREE_PWAAtPtWEST-CREE_PtCARRIER_HtTEuAAIuIvIuOvOtY-CREE_TOOtCARRIER_DEEzdItTAvAuWEtWEST-CREE
    _TWEtTWItWEST-CREE_TWItTWIItWEST-CREE_TWIItTWOtWEST-CREE_TWOtTWOOtWEST-CREE_TWOOtTWAtWEST-CREE
    _TWAtTWAAtWEST-CREE_TWAAtNASKAPI_TWAAtTuTEvIvOvAtKEuAAIuIvIuOvOtY-CREE_KOOtKAvAuWEtWEST-CREE_K
    WEtKWItWEST-CREE_KWItKWIItWEST-CREE_KWIItKWOtWEST-CREE_KWOtKWOOtWEST-CREE_KWOOtKWAtWEST-CREE_K
    WAtKWAAtWEST-CREE_KWAAtNASKAPI_KWAAtKuWtSOUTH-SLAVEY_KEHziIHziOHziAHtCEuAAIuIvIuOvOtY-CREE_COO
    tCAvAuWEtWEST-CREE_CWEtCWItWEST-CREE_CWItCWIItWEST-CREE_CWIItCWOtWEST-CREE_CWOtCWOOtWEST-CREE_
    CWOOtCWAtWEST-CREE_CWAtCWAAtWEST-CREE_CWAAtNASKAPI_CWAAtCtSAYISI_THtMEuAAIuIvIuOvOtY-CREE_MOOt
    MAvAuWEtWEST-CREE_MWEtMWItWEST-CREE_MWItMWIItWEST-CREE_MWIItMWOtWEST-CREE_MWOtMWOOtWEST-CREE_M
    WOOtMWAtWEST-CREE_MWAtMWAAtWEST-CREE_MWAAtNASKAPI_MWAAtMtWEST-CREE_MtMHtATHAPASCAN_MtSAYISI_Mt
    NEuAAIuIvIuOvOtY-CREE_NOOtNAvAuWEtWEST-CREE_NWEtNWAtWEST-CREE_NWAtNWAAtWEST-CREE_NWAAtNASKAPI_
    NWAAtNtCARRIER_NGtNHtLEuAAIuIvIuOvOtY-CREE_LOOtLAvAuWEtWEST-CREE_LWEtLWItWEST-CREE_LWItLWIItWE
    ST-CREE_LWIItLWOtWEST-CREE_LWOtLWOOtWEST-CREE_LWOOtLWAtWEST-CREE_LWAtLWAAtWEST-CREE_LWAAtLtWES
    T-CREE_LtMEDIAL_LtSEuAAIuIvIuOvOtY-CREE_SOOtSAvAuWEtWEST-CREE_SWEtSWItWEST-CREE_SWItSWIItWEST-
    CREE_SWIItSWOtWEST-CREE_SWOtSWOOtWEST-CREE_SWOOtSWAtWEST-CREE_SWAtSWAAtWEST-CREE_SWAAtNASKAPI_
    SWAAtStATHAPASCAN_StSWtBLACKFOOT_StMOOSE-CREE_SKtNASKAPI_SKWzd-WzdPWAzdTWAzdKWAzdCWAtSHEvIwIvO
    wOvAwAvWEtWEST-CREE_SHWEtSHWItWEST-CREE_SHWItSHWIItWEST-CREE_SHWIItSHWOtWEST-CREE_SHWOtSHWOOtW
    EST-CREE_SHWOOtSHWAtWEST-CREE_SHWAtSHWAAtWEST-CREE_SHWAAtSHtYEuAAIuIvIuOvOu-CREE_YOOuAvAuWEtWE
    ST-CREE_YWEtYWItWEST-CREE_YWItYWIItWEST-CREE_YWIItYWOtWEST-CREE_YWOtYWOOtWEST-CREE_YWOOtYWAtWE
    ST-CREE_YWAtYWAAtWEST-CREE_YWAAtNASKAPI_YWAAtYtBIBLE-CREE_YtWEST-CREE_YtSAYISI_YItREu-CREE_REt
    WEST-CREE_LEtRAAIuIvIuOvOtWEST-CREE_LOtRAvAtWEST-CREE_LAtRWAAtWEST-CREE_RWAAtRtWEST-CREE_RtMED
    IAL_RtFEuAAIuIvIuOvOuAvAuWAAtWEST-CREE_FWAAtFtTHEtN-CREE_THEtTHItN-CREE_THItTHIItN-CREE_THIItT
    HOwOvAwAvWAAtWEST-CREE_THWAAtTHuTHEwIwOwAvHuYEvIvOvAtNUNAVIK_HEzdIzeIzdOzeOzdAzeAzcHyUT_HtHKtQ
    AAIuIvIuOvOuAvAtQtTLHEwIwOwAtWEST-CREE_REzfIzfOzfAtNGAAIvIwIvOwOvAwAuGuNGtSAYISI_SHEzdIzdOzdAt
    WOODS-CREE_THEzhIzhOzhAzgHtLHIwIvOwOvAwAuHtTH-CREE_THEzeIzfIzeOzfOzeAzfAzdHtAIVILIK_BtBLACKFOO
    T_EzeIzeOzeAzeWEzfIzfOzfAzeNEzfIzfOzfAzeKEzfIzfOzfAtSAYISI_HEzcIzcOzcAtCARRIER_GHUzeOzeEzfEzeI
    zeAzcRUzdOzdEzeEzdIzdAzcWUzdOzdEzeEzdIzdAzcHWUzeOzeEzfEzeIzeAzcTHUzeOzeEzfEzeIzeAzdTUzeOzeEzfE
    zeIzeAzcPUzdOzdEzeEzdIzdAzcPzcGUzdOzdEzeEzdIzdAzcKHUzeOzeEzfEzeIzeAzdKUzeOzeEzfEzeIzeAzdKzcNUz
    dOzdEzeEzdIzdAzcMUzdOzdEzeEzdIzdAzcYUzdOzdEzeEzdIzdAzcJUtSAYISI_JUtCARRIER_JOzdEzeEzdItSAYISI_
    JItCARRIER_JAzdJUzeOzeEzfEzeIzeAzcLUzdOzdEzeEzdIzdAzcDLUzeOzeEzfEzeIzeAzcLHUzeOzeEzfEzeIzeAzcT
    LHUzfOzfEzgEzfIzfAzeUzeOzeEzfEzeIzeAzcZUzdOzdEzeEzdIzdAzcZzcINITIAL_ZzcDZUzeOzeEzfEzeIzeAzcSUz
    dOzdEzeEzdIzdAzdHUzeOzeEzfEzeIzeAzdHzcTSUzeOzeEzfEzeIzeAzcCHUzeOzeEzfEzeIzeAzcTTSUzfOzfEzgEzfI
    zfAuHI_SIGNtFULL_STOPtQAItNGAIuNGIxIwOxOwAxAtWOODS-CREE_THWEEziIzjIziOzjOziAzjAzfFINAL_THtBLAC
    KFOOT_WaOGHAM_SPACE_MARKgLETTER_BEITHnLUISnFEARNnSAILnNIONnUATHnDAIRnTINNEnCOLLoEIRTnMUINnGORT
    nNGEADALnSTRAIFnRUISnAILMnONNnURnEADHADHnIODHADHnEABHADHnORnUILLEANNnIFINnEAMHANCHOLLnPEITHgFE
    ATHER_MARKgREVERSED_FEATHER_MARK=16A0aRUNIC_LETTER_FEHU_FEOH_FE_FnVnURUZ_UR_UnYRnYnWnTHURISAZ_
    THURS_THORNnETHnANSUZ_AnOS_OnAC_AoESCnLONG-BRANCH-OSS_OnSHORT-TWIG-OSS_OnOoEoNnRAIDO_RAD_REID_
    RnKAUNAnCENnKAUN_KnGnENGnGEBO_GYFU_GoARnWUNJO_WYNN_WnHAGLAZ_HpEGL_HnLONG-BRANCH-HAGALL_HnSHORT
    -TWIG-HAGALL_HnNAUDIZ_NYD_NAUD_NnSHORT-TWIG-NAUD_NnDOTTED-NnISAZ_IS_ISS_InEnJERAN_JnGERnLONG-B
    RANCH-AR_AEnSHORT-TWIG-AR_AnIWAZ_EOHnPERTHO_PEORTH_PnALGIZ_EOLHXnSOWILO_SoIGEL_LONG-BRANCH-SOL
    _SoHORT-TWIG-SOL_SnCnZnTIWAZ_TIR_TYR_TnSHORT-TWIG-TYR_TnDnBERKANAN_BEORC_BJARKAN_BnSHORT-TWIG-
    BJARKAN_BnDOTTED-PnOPEN-PnEHWAZ_EH_EnMANNAZ_MAN_MnLONG-BRANCH-MADR_MnSHORT-TWIG-MADR_MnLAUKAZ_
    LAGU_LOGR_LnDOTTED-LnINGWAZpGnDAGAZ_DAEG_DnOTHALAN_ETHEL_OnEARnIORnCWEORTHoALCoEALCnSTANnLONG-
    BRANCH-YRnSHORT-TWIG-YRnICELANDIC-YRnQnXgSINGLE_PUNCTUATIONgMULTIPLE_PUNCTUATIONgCROSS_PUNCTUA
    TIONgARLAUG_SYMBOLgTVIMADUR_SYMBOLgBELGTHOR_SYMBOLgLETTER_KnSHnOOnFRANKS_CASKET_OSzcISzcEHzcAC
    zdESC=1700aTAGALOG_LETTER_ApIpUpKApGApNGApTApDApNApPApBApMApYApRApLApWApSApHAiVOWEL_SIGN_ItUiS
    IGN_VIRAMAnPAMUDPOD=171FiLETTER_ARCHAIC_RAaHANUNOO_LETTER_ApIpUpKApGApNGApTApDApNApPApBApMApYA
    pRApLApWApSApHAiVOWEL_SIGN_ItUiSIGN_PAMUDPODaPHILIPPINE_SINGLE_PUNCTUATIONlDOUBLE_PUNCTUATION=
    1740aBUHID_LETTER_AnInUnKAnGAnNGAnTAnDAnNAnPAnBAnMAnYAnRAnLAnWAnSAnHAgVOWEL_SIGN_IrU=1760aTAGB
    ANWA_LETTER_AqIqUqKAqGAqNGAqTAqDAqNAqPAqBAqMAqYA=176EqLAqWAqSA=1772jVOWEL_SIGN_IuU=1780aKHMER_
    LETTER_KAoHAoOoHOnNGOnCAoHAoOoHOnNYOnDAnTTHAnDOnTTHOnNNOnTAoHAoOoHOnNOnBAnPHAoOoHOnMOnYOnROnLO
    nVOnSHAoSOoAnHAnLAnQAgINDEPENDENT_VOWEL_QAQzbAzIzbIzUzbKzbUzcVyRYzbYyLYzbYyQEzAIzOO_TYPE_ONEzi
    TWOzAUgVOWEL_INHERENT_AQwAmSIGN_AArIsIrYsYrUsUsArOErYArIErErAEsIrOOrAUgSIGN_NIKAHITlREAHMUKlYU
    UKALEAPINTUlMUUSIKATOANlTRIISAPlBANTOClROBATlTOANDAKHIATlKAKABATlAHSDAlSAMYOK_SANNYAlVIRIAMlCO
    ENGlBATHAMASATlKHANlBARIYOOSANlCAMNUC_PII_KUUHlLEK_TOOlBEYYALlPHNAEK_MUANlKOOMUUTgCURRENCY_SYM
    BOL_RIELgSIGN_AVAKRAHASANYAmTTHACAN=17E0gDIGIT_ZEROmONEmTWOnHREEmFOURnIVEmSIXnEVENmEIGHTmNINE=
    17F0gSYMBOL_LEK_ATTAK_SONxMUOYxPIIxBEIyUONxPRAMzc-MUOYzdPIIzdBEIzeUON=1800aMONGOLIAN_BIRGAkELL
    IPSISkCOMMAkFULL_STOPkCOLONkFOUR_DOTSkTODO_SOFT_HYPHENkSIBE_SYLLABLE_BOUNDARY_MARKERkMANCHU_CO
    MMArFULL_STOPkNIRUGUkFREE_VARIATION_SELECTOR_ONEzjTWOzkHREEkVOWEL_SEPARATORkFREE_VARIATION_SEL
    ECTOR_FOURkDIGIT_ZEROqONEqTWOrHREEqFOURrIVEqSIXrEVENqEIGHTqNINE=1820kLETTER_ArErIrOrUrOErUErEE
    rNArANGrBArPArQArGArMArLArSAsHArTArDArCHArJArYArRArWArFArKAsHArTSArZArHAArZRArLHArZHIrCHIrTODO
    _LONG_VOWEL_SIGNwEwIwOwUwOEwUEwANGwBAwPAwQAwGAwMAwTAwDAwCHAwJAwTSAwYAwWAwKAwGAAwHAAwJIAwNIAwDZ
    ArSIBE_EwIxYwUEwUwANGwKAwGAwHAwPAwSHAwTAwDAwJAwFAwGAAwHAAwTSAwZAwRAAwCHAwZHArMANCHU_IyKAyRAyFA
    yZHArCHA_WITH_TWO_DOTS=1880rALI_GALI_ANUSVARA_ONEzbVISARGA_ONEzbDAMARUzbUBADAMAzbINVERTED_UBAD
    AMAzbBALUDAzbTHREE_BALUDAzbAzbIzbKAzbNGAzbCAzbTTAzdHAzbDDAzbNNAzbTAzbDAzbPAzcHAzbSSAzbZHAzcAzb
    AHrTODO_ALI_GALI_TAzgZHArMANCHU_ALI_GALI_GHAziNGAziCAziJHAziTTAziDDHAziTAziDHAziSSAziCYAziZHAz
    jArALI_GALI_HALF_UzgYArMANCHU_ALI_GALI_BHArALI_GALI_DAGALGArMANCHU_ALI_GALI_LHA=18B0aCANADIAN_
    SYLLABICS_OYtAYuAYtWAYtPOYuAYuWOYtTAYtKAYuWAYtMAYtNOYuAYtLAYtSOYuAYuHOYvAYvWOYtYOYuAYtRAYtNWIt
    OJIBWAY_NWItNWIItOJIBWAY_NWIItNWOtOJIBWAY_NWOtNWOOtOJIBWAY_NWOOtRWEEvIwIvOwOvAtOJIBWAY_PzcTzcK
    zcCzcMzcNzcSzdHtEASTERN_WtWESTERN_WtFINAL_SMALL_RINGzRAISED_DOTtR-CREE_RWEtWEST-CREE_LOOzfAAtT
    HWEwAuTHWEwOOwAAuLHWEwOOtSAYISI_SHWEzdOOzbHOOtCARRIER_GWUzcDENE_GEEzcGAAzdWAtSAYISI_JUUtCARRIE
    R_JWAtBEAVER_DENE_LzgRtCARRIER_DENTAL_S=1900aLIMBU_VOWEL-CARRIER_LETTERgLETTER_KAoHAnGAoHAnNGA
    nCAoHAnJAoHAnYANnTAoHAnDAoHAnNAnPAoHAnBAoHAnMAnYAnRAnLAnWAnSHAoSAoAnHAnGYANnTRA=1920gVOWEL_SIG
    N_ArIrUrEErAIrOOrAUrErOgSUBJOINED_LETTER_YAxRAxWA=1930hMALL_LETTER_KAtNGAtANUSVARAtTAtNAtPAtMA
    tRAtLAhIGN_MUKPHRENGlKEMPHRENGlSA-I=1940lLOO=1944gEXCLAMATION_MARKgQUESTION_MARKgDIGIT_ZEROmON
    EmTWOnHREEmFOURnIVEmSIXnEVENmEIGHTmNINEaTAI_LE_LETTER_KAoXAoNGAoTSAoSAoYAoTApHAoLAoPApHAoMAoFA
    oVAoHAoQAoKHAoTSHAoNAoAoIoEEpHoUoOOoOoUEoEoAUEpI=1970oTONE-2t3t4t5t6=1980aNEW_TAI_LUE_LETTER_H
    IGH_QAtLOW_QAtHIGH_KAyXAyNGAtLOW_KAxXAxNGAtHIGH_TSAySAyYAtLOW_TSAxSAxYAtHIGH_TAzHAyNAtLOW_TAyH
    AxNAtHIGH_PAzHAyMAtLOW_PAyHAxMAtHIGH_FAyVAyLAtLOW_FAxVAxLAtHIGH_HAyDAyBAtLOW_HAxDAxBAtHIGH_KVA
    yXVAtLOW_KVAxXVAtHIGH_SUAtLOW_SUA=19B0mVOWEL_SIGN_VOWEL_SHORTENERxAAxIIxUyUxExAExOyAxUExAYyAYx
    UYxOYyAYxUEYxIYmLETTER_FINAL_VzNGzNzMzKzDzBmTONE_MARK-1w2=19D0mDIGIT_ZEROsONEsTWOtHREEsFOURtIV
    EsSIXtEVENsEIGHTsNINEmTHAM_DIGIT_ONE=19DEmSIGN_LAEuVaKHMER_SYMBOL_PATHAMASATnMUOY_KOETnPII_KOE
    TnBEI_KOEToUON_KOETnPRAM_KOETr-MUOY_KOETsPII_KOETsBEI_KOETtUON_KOETnDAP_KOETq-MUOY_KOETrPII_KO
    ETrBEI_KOETsUON_KOETrPRAM_KOETnTUTEYASATnMUOY_ROCnPII_ROCnBEI_ROCoUON_ROCnPRAM_ROCr-MUOY_ROCsP
    II_ROCsBEI_ROCtUON_ROCnDAP_ROCq-MUOY_ROCrPII_ROCrBEI_ROCsUON_ROCrPRAM_ROCaBUGINESE_LETTER_KAqG
    AqNGAsKAqPAqBAqMArPAqTAqDAqNArRAqCAqJAqNYAsCAqYAqRAqLAqVAqSAqAqHAjVOWEL_SIGN_IuUuEuOuAE=1A1EjP
    ALLAWAjEND_OF_SECTIONaTAI_THAM_LETTER_HIGH_KAwHAwXAqLOW_KAvXAvHAqNGAqHIGH_CAwHAqLOW_CAuSAuCHAq
    NYAqRATAqHIGH_RATHAqDAqLOW_RATHAqRANAqHIGH_TAwHAqLOW_TAvHAqNAqBAqHIGH_PAwHAvFAqLOW_PAuFAuPHAqM
    AqLOW_YAqHIGH_YAqRArUEqLArUEqWAqHIGH_SHAwSAwAvHAqLLAqAqLOW_HAqIrIqUrUqEEqOOqLAEqGREAT_SAjCONSO
    NANT_SIGN_MEDIAL_RAzgLAyLA_TANG_LAIjSIGN_MAI_KANG_LAIjCONSONANT_SIGN_FINAL_NGAyLOW_PAyHIGH_RAT
    HA_OR_LOW_PAyMAyBAySA=1A60jSIGN_SAKOTjVOWEL_SIGN_AuMAI_SATuAAuTALL_AAuIvIuUEvUEuUvUuOvA_BELOWv
    YuEuAEuOOuAIuTHAM_AIuOA_ABOVEjSIGN_MAI_KANGoTONE-1t2oKHUEN_TONE-3z4z5oRA_HAAMoMAI_SAMoKHUEN-LU
    E_KARAN=1A7FjCOMBINING_CRYPTOGRAMMIC_DOTjHORA_DIGIT_ZEROuONEuTWOvHREEuFOURvIVEuSIXvEVENuEIGHTu
    NINE=1A90jTHAM_DIGIT_ZEROuONEuTWOvHREEuFOURvIVEuSIXvEVENuEIGHTuNINE=1AA0jSIGN_WIANGtWAAKoSAWAN
    oKEOWoHOYoDOKMAIoREVERSED_ROTATED_RANAoMAI_YAMOKoKAANsKUUoSATKAANvKUUoHANGoCAANG=1AB0aCOMBININ
    G_DOUBLED_CIRCUMFLEX_ACCENTlIAERESIS-RINGkINFINITYkDOWNWARDS_ARROWkTRIPLE_DOTkX-X_BELOWkWIGGLY
    _LINE_BELOWkOPEN_MARK_BELOWkDOUBLE_OPEN_MARK_BELOWkLIGHT_CENTRALIZATION_STROKE_BELOWkSTRONG_CE
    NTRALIZATION_STROKE_BELOWkPARENTHESES_ABOVEkDOUBLE_PARENTHESES_ABOVEkPARENTHESES_BELOWwOVERLAY
    kLATIN_SMALL_LETTER_W_BELOWzeTURNED_W_BELOWlEFT_PARENTHESIS_ABOVE_LEFTkRIGHT_PARENTHESIS_ABOVE
    _RIGHTkLEFT_PARENTHESIS_BELOW_LEFTkRIGHT_PARENTHESIS_BELOW_RIGHTkSQUARE_BRACKETS_ABOVEkNUMBER_
    SIGN_ABOVEkINVERTED_DOUBLE_ARCH_ABOVEkPLUS_SIGN_ABOVEkDOUBLE_PLUS_SIGN_ABOVEzcBELOWkTRIPLE_ACU
    TE_ACCENTkLATIN_SMALL_LETTER_INSULAR_GzmRzmT=1B00aBALINESE_SIGN_ULU_RICEMsCANDRAoCECEKoSURANGo
    BISAHjLETTER_AKARAv_TEDUNGqIKARAv_TEDUNGqUKARAv_TEDUNGqRA_REPAx_TEDUNGqLA_LENGAy_TEDUNGqEKARAq
    AIKARAqOKARAv_TEDUNGqKAs_MAHAPRANAqGAs_GORAqNGAqCAs_LACAqJAs_JERAqNYAqTA_LATIKtMURDA_MAHAPRANA
    qDA_MURDA_ALPAPRANAzMAHAPRANAqNA_RAMBATqTAs_TAWAqDAs_MADUqNAqPAs_KAPALqBAs_KEMBANGqMAqYAqRAqLA
    qWAqSA_SAGAvPArAqHAjSIGN_REREKANjVOWEL_SIGN_TEDUNGuULUx_SARIuSUKUy_ILUTuRA_REPAzc_TEDUNGuLA_LE
    NGAzd_TEDUNGuTALINGzb_REPAzcTEDUNGzcREPA_TEDUNGuPEPETz_TEDUNGjADEG_ADEGjLETTER_KAF_SASAKrHOT_S
    ASAKqTZIR_SASAKqEF_SASAKqVE_SASAKqZAL_SASAKqASYURA_SASAKrRCHAIC_JNYA=1B50jDIGIT_ZEROpONEpTWOqH
    REEpFOURqIVEpSIXqEVENpEIGHTpNINEjPANTIlMADAjWINDUjCARIK_PAMUNGKAHpSIKIpPARERENjPAMENENGjMUSICA
    L_SYMBOL_DONGzENGzUNGzANGzd_SURANGzINGzAENGzEUNGzAINGzbNG_GEDEyCOMBINING_TEGEHzjENDEPzjKEMPULz
    nLIzjJEGOGANzjKEMPUL_WITH_JEGOGANznLI_WITH_JEGOGANzjBENDEzjGONGyRIGHT-HAND_OPEN_DUGzqAGzkCLOSE
    D_TUKzsAKyLEFT-HAND_OPEN_PANGzpUNGzjCLOSED_PLAKzsUKzjOPEN_PINGjPANTI_LANTANGlMADA_LANTANG=1B80
    aSUNDANESE_SIGN_PANYECEKsGLAYARtWISADkLETTER_ArIrUrAErOrEsUrKArQArGArNGArCArJArZArNYArTArDArNA
    rPArFArVArBArMArYArRArLArWArSArXArHAkCONSONANT_SIGN_PAMINGKALzcNYAKRAzeIKUkVOWEL_SIGN_PANGHULU
    yYUKUyAELAENGyOLONGxMEPETxNEULEUNGkSIGN_PAMAAEHpVIRAMAkCONSONANT_SIGN_PASANGAN_MAzjWAkLETTER_K
    HArSYAkDIGIT_ZEROqONEqTWOrHREEqFOURrIVEqSIXrEVENqEIGHTqNINEkAVAGRAHAkLETTER_REUrLEUrBHArFINAL_
    KxMaBATAK_LETTER_AnSIMALUNGUN_AnHAnSIMALUNGUN_HAnMANDAILING_HAnBAnKARO_BAnPAnSIMALUNGUN_PAnNAn
    MANDAILING_NAnWAnSIMALUNGUN_WAnPAKPAK_WAnGAnSIMALUNGUN_GAnJAnDAnRAnSIMALUNGUN_RAnMAnSIMALUNGUN
    _MAoOUTHERN_TAnNORTHERN_TAnSAoIMALUNGUN_SAnMANDAILING_SAnYAnSIMALUNGUN_YAnNGAnLAnSIMALUNGUN_LA
    nNYAnCAnNDAnMBAnInUgSIGN_TOMPIgVOWEL_SIGN_ErPAKPAK_ErEErIrKARO_IrOrKARO_OrUs_FOR_SIMALUNGUN_SA
    gCONSONANT_SIGN_NGvHgPANGOLATjONGONAN=1BFCgSYMBOL_BINDU_NA_METEKtPINARBORAStJUDULtPANGOLATaLEP
    CHA_LETTER_KApLApHAoGApLAoNGAoCApHAoJAoNYAoTApHAoDAoNAoPApLApHAoFApLAoBApLAoMApLAoTSAqHAoDZAoY
    AoRAoLAoHApLAoVAoSApHAoWAoAhSUBJOINED_LETTER_YAyRAhVOWEL_SIGN_AAsIsOtOsUtUsEhCONSONANT_SIGN_Kw
    MwLwNwPwRwTwNYIN-DOwKANGhSIGN_RANmNUKTA=1C3BhPUNCTUATION_TA-ROLtNYET_THYOOM_TA-ROLtCER-WAtTSHO
    OK_CER-WAyKhDIGIT_ZEROnONEnTWOoHREEnFOURoIVEnSIXoEVENnEIGHTnNINE=1C4DhLETTER_TTAqHAoDDAaOL_CHI
    KI_DIGIT_ZEROpONEpTWOqHREEpFOURqIVEpSIXqEVENpEIGHTpNINEjLETTER_LAqATrGrNGrLqLAAqAAKsJsMsWqLIqI
    SrHrNYrRqLUqUCrDrNNrYqLEqEPrDDrNrRRqLOqOTTrBrVrHjMU_TTUDDAGjGAAHLAA_TTUDDAAGjMU-GAAHLAA_TTUDDA
    AGjRELAAjPHAARKAAjAHADjPUNCTUATION_MUCAADvDOUBLE_MUCAADaCYRILLIC_SMALL_LETTER_ROUNDED_VEwLONG-
    LEGGED_DEwNARROW_OwWIDE_ESwTALL_TExHREE-LEGGED_TExALL_HARD_SIGNzcYATwUNBLENDED_UK=1C90aGEORGIA
    N_MTAVRULI_CAPITAL_LETTER_ANziBANziGANziDONziENziVINziZENziTANziINziKANziLASziMANziNARziONziPA
    RziZHARziRAEziSANziTARziUNziPHARziKHARziGHANziQARziSHINziCHINzjANziJILziCILzjHARziXANziJHANziH
    AEzjEzjIEziWEziHARzjOEziFIziYNziELIFIziTURNED_GANziAIN=1CBDzjENziHARD_SIGNziLABIAL_SIGNaSUNDAN
    ESE_PUNCTUATION_BINDU_SURYAzdPANGLONGzeURNAMAzdCAKRAzdLEU_SATANGAzdKA_SATANGAzdDA_SATANGAzdBA_
    SATANGA=1CD0aVEDIC_TONE_KARSHANAlSHARAlPRENKHAgSIGN_NIHSHVASAlYAJURVEDIC_MIDLINE_SVARITAgTONE_
    YAJURVEDIC_AGGRAVATED_INDEPENDENT_SVARITAwINDEPENDENT_SVARITAwKATHAKA_INDEPENDENT_SVARITAlCAND
    RA_BELOWlYAJURVEDIC_KATHAKA_INDEPENDENT_SVARITA_SCHROEDERlDOUBLE_SVARITAlTRIPLE_SVARITAlKATHAK
    A_ANUDATTAlDOT_BELOWlTWO_DOTS_BELOWmHREE_DOTS_BELOWlRIGVEDIC_KASHMIRI_INDEPENDENT_SVARITAlATHA
    RVAVEDIC_INDEPENDENT_SVARITAgSIGN_VISARGA_SVARITAtUDATTAlREVERSED_VISARGA_UDATTAlVISARGA_ANUDA
    TTAlREVERSED_VISARGA_ANUDATTAlVISARGA_UDATTA_WITH_TAILtANUDATTA_WITH_TAILlANUSVARA_ANTARGOMUKH
    AuBAHIRGOMUKHAuVAMAGOMUKHAzg_WITH_TAILlTIRYAKlHEXIFORM_LONG_ANUSVARAlLONG_ANUSVARAlRTHANG_LONG
    _ANUSVARAlANUSVARA_UBHAYATO_MUKHAmRDHAVISARGAlROTATED_ARDHAVISARGAgTONE_CANDRA_ABOVEgSIGN_JIHV
    AMULIYAlUPADHMANIYAlATIKRAMAgTONE_RING_ABOVElDOUBLE_RING_ABOVEgSIGN_DOUBLE_ANUSVARA_ANTARGOMUK
    HA=1D00aLATIN_LETTER_SMALL_CAPITAL_AzdEgSMALL_LETTER_TURNED_AEgLETTER_SMALL_CAPITAL_BARRED_Bzc
    CzcDzcETHzcEgSMALL_LETTER_TURNED_OPEN_EzbIgLETTER_SMALL_CAPITAL_JzcKzcL_WITH_STROKEzcMzcREVERS
    ED_NzcOzdPEN_OgSMALL_LETTER_SIDEWAYS_OzePEN_Oze_WITH_STROKEtTURNED_OEgLETTER_SMALL_CAPITAL_OUg
    SMALL_LETTER_TOP_HALF_OtBOTTOM_HALF_OgLETTER_SMALL_CAPITAL_PzcREVERSED_RzcTURNED_RzcTzcUgSMALL
    _LETTER_SIDEWAYS_UzdDIAERESIZED_UzdTURNED_MgLETTER_SMALL_CAPITAL_VzcWzcZzcEZHnVOICED_LARYNGEAL
    _SPIRANTnAINaGREEK_LETTER_SMALL_CAPITAL_GAMMAzcLAMDAzcPIzcRHOzcPSIaCYRILLIC_LETTER_SMALL_CAPIT
    AL_ELaMODIFIER_LETTER_CAPITAL_AzEyBzARRED_ByDyEyREVERSED_EyGyHyIyJyKyLyMyNyREVERSED_NyOzUyPyRy
    TyUyWqSMALL_AwTURNED_AwALPHAwTURNED_AEwBwDwEwSCHWAwOPEN_EwTURNED_OPEN_EwGwTURNED_IwKwMwENGwOxP
    EN_OwTOP_HALF_OwBOTTOM_HALF_OwPwTwUwSIDEWAYS_UwTURNED_MwVwAINwBETAwGREEK_GAMMAwDELTAwGREEK_PHI
    wCHIaLATIN_SUBSCRIPT_SMALL_LETTER_IzeRzeUzeVaGREEK_SUBSCRIPT_SMALL_LETTER_BETAzeGAMMAzeRHOzePH
    IzeCHIaLATIN_SMALL_LETTER_UEtB_WITH_MIDDLE_TILDEtD_WITH_MIDDLE_TILDEtF_WITH_MIDDLE_TILDEtM_WIT
    H_MIDDLE_TILDEtN_WITH_MIDDLE_TILDEtP_WITH_MIDDLE_TILDEtR_WITH_MIDDLE_TILDEzbFISHHOOK_AND_MIDDL
    E_TILDEtS_WITH_MIDDLE_TILDEtT_WITH_MIDDLE_TILDEtZ_WITH_MIDDLE_TILDEtTURNED_GaMODIFIER_LETTER_C
    YRILLIC_ENaLATIN_SMALL_LETTER_INSULAR_GtTH_WITH_STRIKETHROUGHmCAPITAL_LETTER_I_WITH_STROKEmLET
    TER_IOTA_WITH_STROKEtP_WITH_STROKEmCAPITAL_LETTER_U_WITH_STROKEmLETTER_UPSILON_WITH_STROKEtB_W
    ITH_PALATAL_HOOKtD_WITH_PALATAL_HOOKtF_WITH_PALATAL_HOOKtG_WITH_PALATAL_HOOKtK_WITH_PALATAL_HO
    OKtL_WITH_PALATAL_HOOKtM_WITH_PALATAL_HOOKtN_WITH_PALATAL_HOOKtP_WITH_PALATAL_HOOKtR_WITH_PALA
    TAL_HOOKtS_WITH_PALATAL_HOOKtESH_WITH_PALATAL_HOOKtV_WITH_PALATAL_HOOKtX_WITH_PALATAL_HOOKtZ_W
    ITH_PALATAL_HOOKtA_WITH_RETROFLEX_HOOKuLPHA_WITH_RETROFLEX_HOOKtD_WITH_HOOK_AND_TAILtE_WITH_RE
    TROFLEX_HOOKtOPEN_E_WITH_RETROFLEX_HOOKtREVERSED_OPEN_E_WITH_RETROFLEX_HOOKtSCHWA_WITH_RETROFL
    EX_HOOKtI_WITH_RETROFLEX_HOOKtOPEN_O_WITH_RETROFLEX_HOOKtESH_WITH_RETROFLEX_HOOKtU_WITH_RETROF
    LEX_HOOKtEZH_WITH_RETROFLEX_HOOKaMODIFIER_LETTER_SMALL_TURNED_ALPHAwCx_WITH_CURLwETHwREVERSED_
    OPEN_EwFwDOTLESS_J_WITH_STROKEwSCRIPT_GwTURNED_HwI_WITH_STROKExOTAwCAPITAL_Izg_WITH_STROKEwJ_W
    ITH_CROSSED-TAILwL_WITH_RETROFLEX_HOOKzePALATAL_HOOKwCAPITAL_LwM_WITH_HOOKwTURNED_M_WITH_LONG_
    LEGwN_WITH_LEFT_HOOKzeRETROFLEX_HOOKwCAPITAL_NwBARRED_OwPHIwS_WITH_HOOKwESHwT_WITH_PALATAL_HOO
    KwU_BARxPSILONwCAPITAL_UwV_WITH_HOOKwTURNED_VwZx_WITH_RETROFLEX_HOOKzeCURLwEZHwTHETAaCOMBINING
    _DOTTED_GRAVE_ACCENTrACUTE_ACCENTkSNAKE_BELOWlUSPENSION_MARKkMACRON-ACUTEkGRAVE-MACRONkMACRON-
    GRAVEkACUTE-MACRONkGRAVE-ACUTE-GRAVEkACUTE-GRAVE-ACUTEkLATIN_SMALL_LETTER_R_BELOWkBREVE-MACRON
    kMACRON-BREVEkDOUBLE_CIRCUMFLEX_ABOVEkOGONEK_ABOVEkZIGZAG_BELOWkIS_BELOWkUR_ABOVElS_ABOVEkLATI
    N_SMALL_LETTER_FLATTENED_OPEN_A_ABOVEzeAEzfOzfVzeC_CEDILLAzeINSULAR_DzeETHzeGqLETTER_SMALL_CAP
    ITAL_GqSMALL_LETTER_KzeLqLETTER_SMALL_CAPITAL_LzmMqSMALL_LETTER_NqLETTER_SMALL_CAPITAL_NzmRqSM
    ALL_LETTER_R_ROTUNDAzeSzeLONG_SzeZzeALPHAzeBzfETAzeSCHWAzeFzeL_WITH_DOUBLE_MIDDLE_TILDEzeO_WIT
    H_LIGHT_CENTRALIZATION_STROKEzePzeESHzeU_WITH_LIGHT_CENTRALIZATION_STROKEzeWzeA_WITH_DIAERESIS
    zeO_WITH_DIAERESISzeU_WITH_DIAERESISkUP_TACK_ABOVEkKAVYKA_ABOVE_RIGHTxLEFTkDOT_ABOVE_LEFTkWIDE
    _INVERTED_BRIDGE_BELOWkDOT_BELOW_LEFTlELETION_MARKlOUBLE_INVERTED_BREVE_BELOWkALMOST_EQUAL_TO_
    BELOWkLEFT_ARROWHEAD_ABOVEkRIGHT_ARROWHEAD_AND_DOWN_ARROWHEAD_BELOWaLATIN_CAPITAL_LETTER_A_WIT
    H_RING_BELOWgSMALL_LETTER_A_WITH_RING_BELOWgCAPITAL_LETTER_B_WITH_DOT_ABOVEgSMALL_LETTER_B_WIT
    H_DOT_ABOVEgCAPITAL_LETTER_B_WITH_DOT_BELOWgSMALL_LETTER_B_WITH_DOT_BELOWgCAPITAL_LETTER_B_WIT
    H_LINE_BELOWgSMALL_LETTER_B_WITH_LINE_BELOWgCAPITAL_LETTER_C_WITH_CEDILLA_AND_ACUTEgSMALL_LETT
    ER_C_WITH_CEDILLA_AND_ACUTEgCAPITAL_LETTER_D_WITH_DOT_ABOVEgSMALL_LETTER_D_WITH_DOT_ABOVEgCAPI
    TAL_LETTER_D_WITH_DOT_BELOWgSMALL_LETTER_D_WITH_DOT_BELOWgCAPITAL_LETTER_D_WITH_LINE_BELOWgSMA
    LL_LETTER_D_WITH_LINE_BELOWgCAPITAL_LETTER_D_WITH_CEDILLAgSMALL_LETTER_D_WITH_CEDILLAgCAPITAL_
    LETTER_D_WITH_CIRCUMFLEX_BELOWgSMALL_LETTER_D_WITH_CIRCUMFLEX_BELOWgCAPITAL_LETTER_E_WITH_MACR
    ON_AND_GRAVEgSMALL_LETTER_E_WITH_MACRON_AND_GRAVEgCAPITAL_LETTER_E_WITH_MACRON_AND_ACUTEgSMALL
    _LETTER_E_WITH_MACRON_AND_ACUTEgCAPITAL_LETTER_E_WITH_CIRCUMFLEX_BELOWgSMALL_LETTER_E_WITH_CIR
    CUMFLEX_BELOWgCAPITAL_LETTER_E_WITH_TILDE_BELOWgSMALL_LETTER_E_WITH_TILDE_BELOWgCAPITAL_LETTER
    _E_WITH_CEDILLA_AND_BREVEgSMALL_LETTER_E_WITH_CEDILLA_AND_BREVEgCAPITAL_LETTER_F_WITH_DOT_ABOV
    EgSMALL_LETTER_F_WITH_DOT_ABOVEgCAPITAL_LETTER_G_WITH_MACRONgSMALL_LETTER_G_WITH_MACRONgCAPITA
    L_LETTER_H_WITH_DOT_ABOVEgSMALL_LETTER_H_WITH_DOT_ABOVEgCAPITAL_LETTER_H_WITH_DOT_BELOWgSMALL_
    LETTER_H_WITH_DOT_BELOWgCAPITAL_LETTER_H_WITH_DIAERESISgSMALL_LETTER_H_WITH_DIAERESISgCAPITAL_
    LETTER_H_WITH_CEDILLAgSMALL_LETTER_H_WITH_CEDILLAgCAPITAL_LETTER_H_WITH_BREVE_BELOWgSMALL_LETT
    ER_H_WITH_BREVE_BELOWgCAPITAL_LETTER_I_WITH_TILDE_BELOWgSMALL_LETTER_I_WITH_TILDE_BELOWgCAPITA
    L_LETTER_I_WITH_DIAERESIS_AND_ACUTEgSMALL_LETTER_I_WITH_DIAERESIS_AND_ACUTEgCAPITAL_LETTER_K_W
    ITH_ACUTEgSMALL_LETTER_K_WITH_ACUTEgCAPITAL_LETTER_K_WITH_DOT_BELOWgSMALL_LETTER_K_WITH_DOT_BE
    LOWgCAPITAL_LETTER_K_WITH_LINE_BELOWgSMALL_LETTER_K_WITH_LINE_BELOWgCAPITAL_LETTER_L_WITH_DOT_
    BELOWgSMALL_LETTER_L_WITH_DOT_BELOWgCAPITAL_LETTER_L_WITH_DOT_BELOW_AND_MACRONgSMALL_LETTER_L_
    WITH_DOT_BELOW_AND_MACRONgCAPITAL_LETTER_L_WITH_LINE_BELOWgSMALL_LETTER_L_WITH_LINE_BELOWgCAPI
    TAL_LETTER_L_WITH_CIRCUMFLEX_BELOWgSMALL_LETTER_L_WITH_CIRCUMFLEX_BELOWgCAPITAL_LETTER_M_WITH_
    ACUTEgSMALL_LETTER_M_WITH_ACUTEgCAPITAL_LETTER_M_WITH_DOT_ABOVEgSMALL_LETTER_M_WITH_DOT_ABOVEg
    CAPITAL_LETTER_M_WITH_DOT_BELOWgSMALL_LETTER_M_WITH_DOT_BELOWgCAPITAL_LETTER_N_WITH_DOT_ABOVEg
    SMALL_LETTER_N_WITH_DOT_ABOVEgCAPITAL_LETTER_N_WITH_DOT_BELOWgSMALL_LETTER_N_WITH_DOT_BELOWgCA
    PITAL_LETTER_N_WITH_LINE_BELOWgSMALL_LETTER_N_WITH_LINE_BELOWgCAPITAL_LETTER_N_WITH_CIRCUMFLEX
    _BELOWgSMALL_LETTER_N_WITH_CIRCUMFLEX_BELOWgCAPITAL_LETTER_O_WITH_TILDE_AND_ACUTEgSMALL_LETTER
    _O_WITH_TILDE_AND_ACUTEgCAPITAL_LETTER_O_WITH_TILDE_AND_DIAERESISgSMALL_LETTER_O_WITH_TILDE_AN
    D_DIAERESISgCAPITAL_LETTER_O_WITH_MACRON_AND_GRAVEgSMALL_LETTER_O_WITH_MACRON_AND_GRAVEgCAPITA
    L_LETTER_O_WITH_MACRON_AND_ACUTEgSMALL_LETTER_O_WITH_MACRON_AND_ACUTEgCAPITAL_LETTER_P_WITH_AC
    UTEgSMALL_LETTER_P_WITH_ACUTEgCAPITAL_LETTER_P_WITH_DOT_ABOVEgSMALL_LETTER_P_WITH_DOT_ABOVEgCA
    PITAL_LETTER_R_WITH_DOT_ABOVEgSMALL_LETTER_R_WITH_DOT_ABOVEgCAPITAL_LETTER_R_WITH_DOT_BELOWgSM
    ALL_LETTER_R_WITH_DOT_BELOWgCAPITAL_LETTER_R_WITH_DOT_BELOW_AND_MACRONgSMALL_LETTER_R_WITH_DOT
    _BELOW_AND_MACRONgCAPITAL_LETTER_R_WITH_LINE_BELOWgSMALL_LETTER_R_WITH_LINE_BELOWgCAPITAL_LETT
    ER_S_WITH_DOT_ABOVEgSMALL_LETTER_S_WITH_DOT_ABOVEgCAPITAL_LETTER_S_WITH_DOT_BELOWgSMALL_LETTER
    _S_WITH_DOT_BELOWgCAPITAL_LETTER_S_WITH_ACUTE_AND_DOT_ABOVEgSMALL_LETTER_S_WITH_ACUTE_AND_DOT_
    ABOVEgCAPITAL_LETTER_S_WITH_CARON_AND_DOT_ABOVEgSMALL_LETTER_S_WITH_CARON_AND_DOT_ABOVEgCAPITA
    L_LETTER_S_WITH_DOT_BELOW_AND_DOT_ABOVEgSMALL_LETTER_S_WITH_DOT_BELOW_AND_DOT_ABOVEgCAPITAL_LE
    TTER_T_WITH_DOT_ABOVEgSMALL_LETTER_T_WITH_DOT_ABOVEgCAPITAL_LETTER_T_WITH_DOT_BELOWgSMALL_LETT
    ER_T_WITH_DOT_BELOWgCAPITAL_LETTER_T_WITH_LINE_BELOWgSMALL_LETTER_T_WITH_LINE_BELOWgCAPITAL_LE
    TTER_T_WITH_CIRCUMFLEX_BELOWgSMALL_LETTER_T_WITH_CIRCUMFLEX_BELOWgCAPITAL_LETTER_U_WITH_DIAERE
    SIS_BELOWgSMALL_LETTER_U_WITH_DIAERESIS_BELOWgCAPITAL_LETTER_U_WITH_TILDE_BELOWgSMALL_LETTER_U
    _WITH_TILDE_BELOWgCAPITAL_LETTER_U_WITH_CIRCUMFLEX_BELOWgSMALL_LETTER_U_WITH_CIRCUMFLEX_BELOWg
    CAPITAL_LETTER_U_WITH_TILDE_AND_ACUTEgSMALL_LETTER_U_WITH_TILDE_AND_ACUTEgCAPITAL_LETTER_U_WIT
    H_MACRON_AND_DIAERESISgSMALL_LETTER_U_WITH_MACRON_AND_DIAERESISgCAPITAL_LETTER_V_WITH_TILDEgSM
    ALL_LETTER_V_WITH_TILDEgCAPITAL_LETTER_V_WITH_DOT_BELOWgSMALL_LETTER_V_WITH_DOT_BELOWgCAPITAL_
    LETTER_W_WITH_GRAVEgSMALL_LETTER_W_WITH_GRAVEgCAPITAL_LETTER_W_WITH_ACUTEgSMALL_LETTER_W_WITH_
    ACUTEgCAPITAL_LETTER_W_WITH_DIAERESISgSMALL_LETTER_W_WITH_DIAERESISgCAPITAL_LETTER_W_WITH_DOT_
    ABOVEgSMALL_LETTER_W_WITH_DOT_ABOVEgCAPITAL_LETTER_W_WITH_DOT_BELOWgSMALL_LETTER_W_WITH_DOT_BE
    LOWgCAPITAL_LETTER_X_WITH_DOT_ABOVEgSMALL_LETTER_X_WITH_DOT_ABOVEgCAPITAL_LETTER_X_WITH_DIAERE
    SISgSMALL_LETTER_X_WITH_DIAERESISgCAPITAL_LETTER_Y_WITH_DOT_ABOVEgSMALL_LETTER_Y_WITH_DOT_ABOV
    EgCAPITAL_LETTER_Z_WITH_CIRCUMFLEXgSMALL_LETTER_Z_WITH_CIRCUMFLEXgCAPITAL_LETTER_Z_WITH_DOT_BE
    LOWgSMALL_LETTER_Z_WITH_DOT_BELOWgCAPITAL_LETTER_Z_WITH_LINE_BELOWgSMALL_LETTER_Z_WITH_LINE_BE
    LOWtH_WITH_LINE_BELOWtT_WITH_DIAERESIStW_WITH_RING_ABOVEtY_WITH_RING_ABOVEtA_WITH_RIGHT_HALF_R
    INGtLONG_S_WITH_DOT_ABOVEzhIAGONAL_STROKEzgHIGH_STROKEgCAPITAL_LETTER_SHARP_SgSMALL_LETTER_DEL
    TAgCAPITAL_LETTER_A_WITH_DOT_BELOWgSMALL_LETTER_A_WITH_DOT_BELOWgCAPITAL_LETTER_A_WITH_HOOK_AB
    OVEgSMALL_LETTER_A_WITH_HOOK_ABOVEgCAPITAL_LETTER_A_WITH_CIRCUMFLEX_AND_ACUTEgSMALL_LETTER_A_W
    ITH_CIRCUMFLEX_AND_ACUTEgCAPITAL_LETTER_A_WITH_CIRCUMFLEX_AND_GRAVEgSMALL_LETTER_A_WITH_CIRCUM
    FLEX_AND_GRAVEgCAPITAL_LETTER_A_WITH_CIRCUMFLEX_AND_HOOK_ABOVEgSMALL_LETTER_A_WITH_CIRCUMFLEX_
    AND_HOOK_ABOVEgCAPITAL_LETTER_A_WITH_CIRCUMFLEX_AND_TILDEgSMALL_LETTER_A_WITH_CIRCUMFLEX_AND_T
    ILDEgCAPITAL_LETTER_A_WITH_CIRCUMFLEX_AND_DOT_BELOWgSMALL_LETTER_A_WITH_CIRCUMFLEX_AND_DOT_BEL
    OWgCAPITAL_LETTER_A_WITH_BREVE_AND_ACUTEgSMALL_LETTER_A_WITH_BREVE_AND_ACUTEgCAPITAL_LETTER_A_
    WITH_BREVE_AND_GRAVEgSMALL_LETTER_A_WITH_BREVE_AND_GRAVEgCAPITAL_LETTER_A_WITH_BREVE_AND_HOOK_
    ABOVEgSMALL_LETTER_A_WITH_BREVE_AND_HOOK_ABOVEgCAPITAL_LETTER_A_WITH_BREVE_AND_TILDEgSMALL_LET
    TER_A_WITH_BREVE_AND_TILDEgCAPITAL_LETTER_A_WITH_BREVE_AND_DOT_BELOWgSMALL_LETTER_A_WITH_BREVE
    _AND_DOT_BELOWgCAPITAL_LETTER_E_WITH_DOT_BELOWgSMALL_LETTER_E_WITH_DOT_BELOWgCAPITAL_LETTER_E_
    WITH_HOOK_ABOVEgSMALL_LETTER_E_WITH_HOOK_ABOVEgCAPITAL_LETTER_E_WITH_TILDEgSMALL_LETTER_E_WITH
    _TILDEgCAPITAL_LETTER_E_WITH_CIRCUMFLEX_AND_ACUTEgSMALL_LETTER_E_WITH_CIRCUMFLEX_AND_ACUTEgCAP
    ITAL_LETTER_E_WITH_CIRCUMFLEX_AND_GRAVEgSMALL_LETTER_E_WITH_CIRCUMFLEX_AND_GRAVEgCAPITAL_LETTE
    R_E_WITH_CIRCUMFLEX_AND_HOOK_ABOVEgSMALL_LETTER_E_WITH_CIRCUMFLEX_AND_HOOK_ABOVEgCAPITAL_LETTE
    R_E_WITH_CIRCUMFLEX_AND_TILDEgSMALL_LETTER_E_WITH_CIRCUMFLEX_AND_TILDEgCAPITAL_LETTER_E_WITH_C
    IRCUMFLEX_AND_DOT_BELOWgSMALL_LETTER_E_WITH_CIRCUMFLEX_AND_DOT_BELOWgCAPITAL_LETTER_I_WITH_HOO
    K_ABOVEgSMALL_LETTER_I_WITH_HOOK_ABOVEgCAPITAL_LETTER_I_WITH_DOT_BELOWgSMALL_LETTER_I_WITH_DOT
    _BELOWgCAPITAL_LETTER_O_WITH_DOT_BELOWgSMALL_LETTER_O_WITH_DOT_BELOWgCAPITAL_LETTER_O_WITH_HOO
    K_ABOVEgSMALL_LETTER_O_WITH_HOOK_ABOVEgCAPITAL_LETTER_O_WITH_CIRCUMFLEX_AND_ACUTEgSMALL_LETTER
    _O_WITH_CIRCUMFLEX_AND_ACUTEgCAPITAL_LETTER_O_WITH_CIRCUMFLEX_AND_GRAVEgSMALL_LETTER_O_WITH_CI
    RCUMFLEX_AND_GRAVEgCAPITAL_LETTER_O_WITH_CIRCUMFLEX_AND_HOOK_ABOVEgSMALL_LETTER_O_WITH_CIRCUMF
    LEX_AND_HOOK_ABOVEgCAPITAL_LETTER_O_WITH_CIRCUMFLEX_AND_TILDEgSMALL_LETTER_O_WITH_CIRCUMFLEX_A
    ND_TILDEgCAPITAL_LETTER_O_WITH_CIRCUMFLEX_AND_DOT_BELOWgSMALL_LETTER_O_WITH_CIRCUMFLEX_AND_DOT
    _BELOWgCAPITAL_LETTER_O_WITH_HORN_AND_ACUTEgSMALL_LETTER_O_WITH_HORN_AND_ACUTEgCAPITAL_LETTER_
    O_WITH_HORN_AND_GRAVEgSMALL_LETTER_O_WITH_HORN_AND_GRAVEgCAPITAL_LETTER_O_WITH_HORN_AND_HOOK_A
    BOVEgSMALL_LETTER_O_WITH_HORN_AND_HOOK_ABOVEgCAPITAL_LETTER_O_WITH_HORN_AND_TILDEgSMALL_LETTER
    _O_WITH_HORN_AND_TILDEgCAPITAL_LETTER_O_WITH_HORN_AND_DOT_BELOWgSMALL_LETTER_O_WITH_HORN_AND_D
    OT_BELOWgCAPITAL_LETTER_U_WITH_DOT_BELOWgSMALL_LETTER_U_WITH_DOT_BELOWgCAPITAL_LETTER_U_WITH_H
    OOK_ABOVEgSMALL_LETTER_U_WITH_HOOK_ABOVEgCAPITAL_LETTER_U_WITH_HORN_AND_ACUTEgSMALL_LETTER_U_W
    ITH_HORN_AND_ACUTEgCAPITAL_LETTER_U_WITH_HORN_AND_GRAVEgSMALL_LETTER_U_WITH_HORN_AND_GRAVEgCAP
    ITAL_LETTER_U_WITH_HORN_AND_HOOK_ABOVEgSMALL_LETTER_U_WITH_HORN_AND_HOOK_ABOVEgCAPITAL_LETTER_
    U_WITH_HORN_AND_TILDEgSMALL_LETTER_U_WITH_HORN_AND_TILDEgCAPITAL_LETTER_U_WITH_HORN_AND_DOT_BE
    LOWgSMALL_LETTER_U_WITH_HORN_AND_DOT_BELOWgCAPITAL_LETTER_Y_WITH_GRAVEgSMALL_LETTER_Y_WITH_GRA
    VEgCAPITAL_LETTER_Y_WITH_DOT_BELOWgSMALL_LETTER_Y_WITH_DOT_BELOWgCAPITAL_LETTER_Y_WITH_HOOK_AB
    OVEgSMALL_LETTER_Y_WITH_HOOK_ABOVEgCAPITAL_LETTER_Y_WITH_TILDEgSMALL_LETTER_Y_WITH_TILDEgCAPIT
    AL_LETTER_MIDDLE-WELSH_LLgSMALL_LETTER_MIDDLE-WELSH_LLgCAPITAL_LETTER_MIDDLE-WELSH_VgSMALL_LET
    TER_MIDDLE-WELSH_VgCAPITAL_LETTER_Y_WITH_LOOPgSMALL_LETTER_Y_WITH_LOOPaGREEK_SMALL_LETTER_ALPH
    A_WITH_PSILIzfDASIAzfPSILI_AND_VARIAzfDASIA_AND_VARIAzfPSILI_AND_OXIAzfDASIA_AND_OXIAzfPSILI_A
    ND_PERISPOMENIzfDASIA_AND_PERISPOMENIgCAPITAL_LETTER_ALPHA_WITH_PSILIzhDASIAzhPSILI_AND_VARIAz
    hDASIA_AND_VARIAzhPSILI_AND_OXIAzhDASIA_AND_OXIAzhPSILI_AND_PERISPOMENIzhDASIA_AND_PERISPOMENI
    gSMALL_LETTER_EPSILON_WITH_PSILIzhDASIAzhPSILI_AND_VARIAzhDASIA_AND_VARIAzhPSILI_AND_OXIAzhDAS
    IA_AND_OXIA=1F18gCAPITAL_LETTER_EPSILON_WITH_PSILIzjDASIAzjPSILI_AND_VARIAzjDASIA_AND_VARIAzjP
    SILI_AND_OXIAzjDASIA_AND_OXIA=1F20gSMALL_LETTER_ETA_WITH_PSILIzdDASIAzdPSILI_AND_VARIAzdDASIA_
    AND_VARIAzdPSILI_AND_OXIAzdDASIA_AND_OXIAzdPSILI_AND_PERISPOMENIzdDASIA_AND_PERISPOMENIgCAPITA
    L_LETTER_ETA_WITH_PSILIzfDASIAzfPSILI_AND_VARIAzfDASIA_AND_VARIAzfPSILI_AND_OXIAzfDASIA_AND_OX
    IAzfPSILI_AND_PERISPOMENIzfDASIA_AND_PERISPOMENIgSMALL_LETTER_IOTA_WITH_PSILIzeDASIAzePSILI_AN
    D_VARIAzeDASIA_AND_VARIAzePSILI_AND_OXIAzeDASIA_AND_OXIAzePSILI_AND_PERISPOMENIzeDASIA_AND_PER
    ISPOMENIgCAPITAL_LETTER_IOTA_WITH_PSILIzgDASIAzgPSILI_AND_VARIAzgDASIA_AND_VARIAzgPSILI_AND_OX
    IAzgDASIA_AND_OXIAzgPSILI_AND_PERISPOMENIzgDASIA_AND_PERISPOMENIgSMALL_LETTER_OMICRON_WITH_PSI
    LIzhDASIAzhPSILI_AND_VARIAzhDASIA_AND_VARIAzhPSILI_AND_OXIAzhDASIA_AND_OXIA=1F48gCAPITAL_LETTE
    R_OMICRON_WITH_PSILIzjDASIAzjPSILI_AND_VARIAzjDASIA_AND_VARIAzjPSILI_AND_OXIAzjDASIA_AND_OXIA=
    1F50gSMALL_LETTER_UPSILON_WITH_PSILIzhDASIAzhPSILI_AND_VARIAzhDASIA_AND_VARIAzhPSILI_AND_OXIAz
    hDASIA_AND_OXIAzhPSILI_AND_PERISPOMENIzhDASIA_AND_PERISPOMENI=1F59gCAPITAL_LETTER_UPSILON_WITH
    _DASIA=1F5Bzo_AND_VARIA=1F5DztOXIA=1F5FztPERISPOMENIgSMALL_LETTER_OMEGA_WITH_PSILIzfDASIAzfPSI
    LI_AND_VARIAzfDASIA_AND_VARIAzfPSILI_AND_OXIAzfDASIA_AND_OXIAzfPSILI_AND_PERISPOMENIzfDASIA_AN
    D_PERISPOMENIgCAPITAL_LETTER_OMEGA_WITH_PSILIzhDASIAzhPSILI_AND_VARIAzhDASIA_AND_VARIAzhPSILI_
    AND_OXIAzhDASIA_AND_OXIAzhPSILI_AND_PERISPOMENIzhDASIA_AND_PERISPOMENIgSMALL_LETTER_ALPHA_WITH
    _VARIAzfOXIAtEPSILON_WITH_VARIAzhOXIAuTA_WITH_VARIAzdOXIAtIOTA_WITH_VARIAzeOXIAtOMICRON_WITH_V
    ARIAzhOXIAtUPSILON_WITH_VARIAzhOXIAtOMEGA_WITH_VARIAzfOXIA=1F80tALPHA_WITH_PSILI_AND_YPOGEGRAM
    MENIzfDASIA_AND_YPOGEGRAMMENIzfPSILI_AND_VARIA_AND_YPOGEGRAMMENIzfDASIA_AND_VARIA_AND_YPOGEGRA
    MMENIzfPSILI_AND_OXIA_AND_YPOGEGRAMMENIzfDASIA_AND_OXIA_AND_YPOGEGRAMMENIzfPSILI_AND_PERISPOME
    NI_AND_YPOGEGRAMMENIzfDASIA_AND_PERISPOMENI_AND_YPOGEGRAMMENIgCAPITAL_LETTER_ALPHA_WITH_PSILI_
    AND_PROSGEGRAMMENIzhDASIA_AND_PROSGEGRAMMENIzhPSILI_AND_VARIA_AND_PROSGEGRAMMENIzhDASIA_AND_VA
    RIA_AND_PROSGEGRAMMENIzhPSILI_AND_OXIA_AND_PROSGEGRAMMENIzhDASIA_AND_OXIA_AND_PROSGEGRAMMENIzh
    PSILI_AND_PERISPOMENI_AND_PROSGEGRAMMENIzhDASIA_AND_PERISPOMENI_AND_PROSGEGRAMMENIgSMALL_LETTE
    R_ETA_WITH_PSILI_AND_YPOGEGRAMMENIzdDASIA_AND_YPOGEGRAMMENIzdPSILI_AND_VARIA_AND_YPOGEGRAMMENI
    zdDASIA_AND_VARIA_AND_YPOGEGRAMMENIzdPSILI_AND_OXIA_AND_YPOGEGRAMMENIzdDASIA_AND_OXIA_AND_YPOG
    EGRAMMENIzdPSILI_AND_PERISPOMENI_AND_YPOGEGRAMMENIzdDASIA_AND_PERISPOMENI_AND_YPOGEGRAMMENIgCA
    PITAL_LETTER_ETA_WITH_PSILI_AND_PROSGEGRAMMENIzfDASIA_AND_PROSGEGRAMMENIzfPSILI_AND_VARIA_AND_
    PROSGEGRAMMENIzfDASIA_AND_VARIA_AND_PROSGEGRAMMENIzfPSILI_AND_OXIA_AND_PROSGEGRAMMENIzfDASIA_A
    ND_OXIA_AND_PROSGEGRAMMENIzfPSILI_AND_PERISPOMENI_AND_PROSGEGRAMMENIzfDASIA_AND_PERISPOMENI_AN
    D_PROSGEGRAMMENIgSMALL_LETTER_OMEGA_WITH_PSILI_AND_YPOGEGRAMMENIzfDASIA_AND_YPOGEGRAMMENIzfPSI
    LI_AND_VARIA_AND_YPOGEGRAMMENIzfDASIA_AND_VARIA_AND_YPOGEGRAMMENIzfPSILI_AND_OXIA_AND_YPOGEGRA
    MMENIzfDASIA_AND_OXIA_AND_YPOGEGRAMMENIzfPSILI_AND_PERISPOMENI_AND_YPOGEGRAMMENIzfDASIA_AND_PE
    RISPOMENI_AND_YPOGEGRAMMENIgCAPITAL_LETTER_OMEGA_WITH_PSILI_AND_PROSGEGRAMMENIzhDASIA_AND_PROS
    GEGRAMMENIzhPSILI_AND_VARIA_AND_PROSGEGRAMMENIzhDASIA_AND_VARIA_AND_PROSGEGRAMMENIzhPSILI_AND_
    OXIA_AND_PROSGEGRAMMENIzhDASIA_AND_OXIA_AND_PROSGEGRAMMENIzhPSILI_AND_PERISPOMENI_AND_PROSGEGR
    AMMENIzhDASIA_AND_PERISPOMENI_AND_PROSGEGRAMMENIgSMALL_LETTER_ALPHA_WITH_VRACHYzfMACRONzfVARIA
    _AND_YPOGEGRAMMENIzfYPOGEGRAMMENIzfOXIA_AND_YPOGEGRAMMENI=1FB6zfPERISPOMENIzq_AND_YPOGEGRAMMEN
    IgCAPITAL_LETTER_ALPHA_WITH_VRACHYzhMACRONzhVARIAzhOXIAzhPROSGEGRAMMENIgKORONISgPROSGEGRAMMENI
    hSILIhERISPOMENIgDIALYTIKA_AND_PERISPOMENIgSMALL_LETTER_ETA_WITH_VARIA_AND_YPOGEGRAMMENIzdYPOG
    EGRAMMENIzdOXIA_AND_YPOGEGRAMMENI=1FC6zdPERISPOMENIzo_AND_YPOGEGRAMMENIgCAPITAL_LETTER_EPSILON
    _WITH_VARIAzjOXIAwTA_WITH_VARIAzfOXIAzfPROSGEGRAMMENIgPSILI_AND_VARIAqOXIAqPERISPOMENIgSMALL_L
    ETTER_IOTA_WITH_VRACHYzeMACRONzeDIALYTIKA_AND_VARIAzsOXIA=1FD6zePERISPOMENIzeDIALYTIKA_AND_PER
    ISPOMENIgCAPITAL_LETTER_IOTA_WITH_VRACHYzgMACRONzgVARIAzgOXIA=1FDDgDASIA_AND_VARIAqOXIAqPERISP
    OMENIgSMALL_LETTER_UPSILON_WITH_VRACHYzhMACRONzhDIALYTIKA_AND_VARIAzvOXIAtRHO_WITH_PSILIzdDASI
    AtUPSILON_WITH_PERISPOMENIzhDIALYTIKA_AND_PERISPOMENIgCAPITAL_LETTER_UPSILON_WITH_VRACHYzjMACR
    ONzjVARIAzjOXIAvRHO_WITH_DASIAgDIALYTIKA_AND_VARIAuOXIAgVARIA=1FF2gSMALL_LETTER_OMEGA_WITH_VAR
    IA_AND_YPOGEGRAMMENIzfYPOGEGRAMMENIzfOXIA_AND_YPOGEGRAMMENI=1FF6zfPERISPOMENIzq_AND_YPOGEGRAMM
    ENIgCAPITAL_LETTER_OMICRON_WITH_VARIAzjOXIAxEGA_WITH_VARIAzhOXIAzhPROSGEGRAMMENIgOXIAgDASIA"

end Assay.Text
